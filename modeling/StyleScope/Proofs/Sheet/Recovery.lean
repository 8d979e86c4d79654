import StyleScope.Proofs.Sheet.Braces

/-!
Recovery from faults.

Whatever is wrong with a source, a closing brace that has nothing to close is reported where it
stands, an opening brace that nothing closes is reported at its heading, and every string or
comment without its end where it stands. Nothing of this is reported twice, and every opening
brace has a node. All of it holds because every token is in one statement or in a gap between two.
-/

namespace StyleScope

/-! ### Nodes with a block -/

def blockNodes (nodes : Array Node) : Nat := nodes.toList.countP (·.data.block?.isSome)

lemma blockNodes_push (nodes : Array Node) (n : Node) :
    blockNodes (nodes.push n) = blockNodes nodes + if n.data.block?.isSome then 1 else 0 := by
  simp [blockNodes, List.countP_append, List.countP_cons]

lemma isSome_block?_finish (block : OpenBlock) (stop : Nat) {n : Node}
    (h : n.data.block?.isSome = true) : (block.finish stop n).data.block?.isSome = true := by
  rw [OpenBlock.finish, NodeData.block?_withChildren h]
  rfl

/-- The node of a block is there, and has a block. -/
def OpenBlock.Rooted (nodes : Array Node) (block : OpenBlock) : Prop :=
  ∃ n, nodes[block.node]? = some n ∧ n.data.block?.isSome = true

lemma OpenBlock.Rooted.push {nodes : Array Node} {block : OpenBlock} (h : block.Rooted nodes)
    (n : Node) : block.Rooted (nodes.push n) := by
  obtain ⟨m, hm, hblock⟩ := h
  obtain ⟨hlt, -⟩ := Array.getElem?_eq_some_iff.mp hm
  exact ⟨m, by rw [Array.getElem?_push, if_neg (Nat.ne_of_lt hlt), hm], hblock⟩

lemma OpenBlock.Rooted.finish {nodes : Array Node} {block : OpenBlock} (h : block.Rooted nodes)
    (other : OpenBlock) (stop : Nat) :
    block.Rooted (nodes.modify other.node (other.finish stop)) := by
  obtain ⟨m, hm, hblock⟩ := h
  rw [Rooted, Array.getElem?_modify]
  split_ifs with heq
  · exact ⟨other.finish stop m, by rw [hm]; rfl, isSome_block?_finish other stop hblock⟩
  · exact ⟨m, hm, hblock⟩

lemma OpenBlock.Rooted.blockNodes_modify {nodes : Array Node} {block : OpenBlock}
    (h : block.Rooted nodes) (stop : Nat) :
    blockNodes (nodes.modify block.node (block.finish stop)) = blockNodes nodes := by
  obtain ⟨m, hm, hblock⟩ := h
  have hmap : (nodes.modify block.node (block.finish stop)).toList.map (·.data.block?.isSome) =
      nodes.toList.map (·.data.block?.isSome) := by
    apply List.ext_getElem?
    intro id
    simp only [List.getElem?_map, Array.getElem?_toList, Array.getElem?_modify]
    split_ifs with heq
    · subst heq
      simp [hm, hblock, isSome_block?_finish block stop hblock]
    · rfl
  have hcount (ns : Array Node) :
      blockNodes ns = (ns.toList.map (·.data.block?.isSome)).countP id := by
    rw [List.countP_map]
    rfl
  rw [hcount, hcount, hmap]

namespace SheetBuilder

variable {b c : SheetBuilder}

def Rooted (b : SheetBuilder) : Prop := ∀ block ∈ b.blocks, block.Rooted b.nodes

lemma Rooted.add (h : b.Rooted) (data : NodeData) (span : Span) : (b.add data span).Rooted := by
  rcases hb : b.blocks with _ | ⟨block, outer⟩
  · simp [Rooted, SheetBuilder.add, hb]
  · intro block' hblock'
    simp only [SheetBuilder.add, hb, List.mem_cons] at hblock' ⊢
    rcases hblock' with rfl | hmem
    · exact (h block (by simp [hb])).push _
    · exact (h block' (by simp [hb, hmem])).push _

lemma blockNodes_add (data : NodeData) (span : Span) : blockNodes (b.add data span).nodes =
    blockNodes b.nodes + if data.block?.isSome then 1 else 0 := by
  rcases hb : b.blocks with _ | ⟨block, outer⟩ <;> simp [SheetBuilder.add, hb, blockNodes_push]

/-- **A node with a block is added when a block is opened.** -/
theorem Grows.blockNodes {pos : Nat} {text : Text} (hg : Grows pos text b c) (h : b.Rooted) :
    c.Rooted ∧ blockNodes c.nodes = blockNodes b.nodes + (c.blocks.length - b.blocks.length) := by
  cases hg with
  | same hsame =>
    obtain ⟨hnodes, hblocks, -⟩ := hsame
    rw [Rooted, hnodes, hblocks]
    exact ⟨h, by omega⟩
  | @close block outer hb =>
    have hroot : block.Rooted b.nodes := h block (by simp [hb])
    refine ⟨fun other hother => ?_, ?_⟩
    · exact (h other (by simp [hb, show other ∈ outer from hother])).finish block _
    · have hnodes : (({ b with blocks := outer } : SheetBuilder).finishBlock block
          (pos + text.size)).nodes =
          b.nodes.modify block.node (block.finish (pos + text.size)) := rfl
      rw [hnodes, hroot.blockNodes_modify]
      simp [finishBlock, hb]
  | @leaf c data inside t hsame hd ht =>
    obtain ⟨hnodes, hblocks, -⟩ := hsame
    have hc : c.Rooted := by rw [Rooted, hnodes, hblocks]; exact h
    refine ⟨hc.add _ _, ?_⟩
    rw [blockNodes_add, length_blocks_add, hnodes, hblocks, hd]
    simp
  | @block c data openedBy opener hsame hd hr =>
    obtain ⟨hnodes, hblocks, -⟩ := hsame
    have hc : c.Rooted := by rw [Rooted, hnodes, hblocks]; exact h
    refine ⟨fun other hother => ?_, ?_⟩
    · rcases List.mem_cons.mp hother with rfl | hother
      · refine ⟨⟨data, c.path.head?, opener⟩, ?_, by simp [hd]⟩
        rcases hb : c.blocks with _ | ⟨block, outer⟩ <;>
          simp [addBlock, SheetBuilder.add, hb, path]
      · exact hc.add data opener other hother
    · have hadd : StyleScope.blockNodes (c.addBlock data pos openedBy opener).nodes = _ :=
        blockNodes_add data opener
      rw [hadd, length_blocks_addBlock, hnodes, hblocks, hd]
      simp

lemma blockNodes_settle {blocks : List OpenBlock} {nodes : Array Node}
    (h : ∀ block ∈ blocks, block.Rooted nodes) (stop : Nat) :
    blockNodes (settle stop blocks nodes) = blockNodes nodes := by
  induction blocks generalizing nodes with
  | nil => rfl
  | cons block blocks ih =>
    have hrec : settle stop (block :: blocks) nodes =
        settle stop blocks (nodes.modify block.node (block.finish stop)) := rfl
    rw [hrec, ih fun other hother => (h other (by simp [hother])).finish block stop]
    exact (h block (by simp)).blockNodes_modify stop

lemma blockNodes_foldl_step {ts : List Token} {sts : List Statement}
    (h : Statement.Groups ts sts) {pos : Nat} (ha : Piece.Adjacent pos ts) (hl : Token.Lexes ts)
    (hb : b.Rooted) : (sts.foldl step b).Rooted ∧
      blockNodes (sts.foldl step b).nodes =
        blockNodes b.nodes + ts.countP (·.kind = .leftBrace) := by
  induction h generalizing pos b with
  | nil => exact ⟨hb, by simp⟩
  | @gap t ts sts hk h ih =>
    have hplain := (Braces.plain_of_isGap hk).1
    rw [List.countP_cons_of_neg (by simpa using hplain)]
    exact ih ha.2 hl.2 hb
  | @take st rest sts hs h ih =>
    obtain ⟨hroot, hstep⟩ := (grows_step hs ha hl).blockNodes hb
    obtain ⟨hroot', hrest⟩ :=
      ih (Piece.adjacent_append.mp ha).2 (Token.lexes_append.mp hl).2 hroot
    rw [length_blocks_step] at hstep
    refine ⟨hroot', ?_⟩
    rw [List.foldl_cons, hrest, hstep, List.countP_append, hs.countP_leftBrace b.blocks.length,
      Nat.add_assoc]

end SheetBuilder

/-! ### Parsed sources -/

namespace Sheet

/-- **Every opening brace has a node.** -/
theorem blockNodes_parse (source : Text) (file : Option Text) :
    blockNodes (parse source file).sheet.nodes =
      (Token.scan source).countP (·.kind = .leftBrace) := by
  obtain ⟨hadj, hlex, -⟩ := Token.scan_spec source
  obtain ⟨hroot, hrun⟩ := SheetBuilder.blockNodes_foldl_step (b := .empty)
    (Statement.groups_ofTokens (Token.scan source)) hadj hlex (by simp [SheetBuilder.Rooted,
      SheetBuilder.empty])
  have hnodes : (parse source file).sheet.nodes = SheetBuilder.settle source.size
      ((Statement.ofTokens (Token.scan source)).foldl SheetBuilder.step .empty).blocks
      ((Statement.ofTokens (Token.scan source)).foldl SheetBuilder.step .empty).nodes := by
    simp only [parse, SheetBuilder.nodes_closeAll]
  rw [hnodes, SheetBuilder.blockNodes_settle hroot, hrun]
  simp [blockNodes, SheetBuilder.empty]

lemma blockNodes_eq (nodes : Array Node) :
    blockNodes nodes = (nodes.toList.filter (·.data.isRule)).length +
      (nodes.toList.filter fun n => (n.data.atRule?.bind AtRule.body).isSome).length := by
  unfold blockNodes
  induction nodes.toList with
  | nil => rfl
  | cons n ns ih =>
    obtain ⟨data, parent, span⟩ := n
    rw [List.countP_cons, ih, List.filter_cons, List.filter_cons]
    cases data with
    | rule r =>
      simp [NodeData.block?, NodeData.isRule, NodeData.rule?, NodeData.atRule?]
      omega
    | atRule a =>
      cases hb : a.body <;>
        simp [NodeData.block?, NodeData.isRule, NodeData.rule?, NodeData.atRule?, hb, Nat.add_assoc]
    | declaration d => simp [NodeData.block?, NodeData.isRule, NodeData.rule?, NodeData.atRule?]
    | comment t => simp [NodeData.block?, NodeData.isRule, NodeData.rule?, NodeData.atRule?]

lemma filter_unended?_string (t : Token) :
    (Prelude.unended? t).toList.filter (·.fault = .unclosedString) =
      if t.kind = .string ∧ ¬ Token.HasClosingQuote t.text then [⟨.unclosedString, t.span⟩]
      else [] := by
  unfold Prelude.unended?
  split
  · next hk =>
    by_cases hc : Token.isClosedString t.text = true
    · simp [hk, hc, Token.isClosedString_iff.mp hc]
    · simp [hk, hc, mt Token.isClosedString_iff.mpr hc]
  · next hk => by_cases hc : Token.isClosedComment t.text = true <;> simp [hk, hc]
  · next hk _ => exact (if_neg fun h => hk h.1).symm

lemma filter_unended?_comment {t : Token} (ht : t.Lexed) :
    (Prelude.unended? t).toList.filter (·.fault = .unclosedComment) =
      if t.kind = .comment ∧ ¬ Token.HasCommentEnd t.text then [⟨.unclosedComment, t.span⟩]
      else [] := by
  unfold Prelude.unended?
  split
  · next hk => by_cases hc : Token.isClosedString t.text = true <;> simp [hk, hc]
  · next hk =>
    by_cases hc : Token.isClosedComment t.text = true
    · simp [hk, hc, (ht.isClosedComment_iff hk).mp hc]
    · simp [hk, hc, mt (ht.isClosedComment_iff hk).mpr hc]
  · next _ hk => exact (if_neg fun h => hk h.1).symm

lemma filter_unended {kind : TokenKind} {fault : ParseFault} {Closed : Text → Prop}
    [DecidablePred Closed] (h : ∀ t : Token, t.Lexed →
      (Prelude.unended? t).toList.filter (·.fault = fault) =
        if t.kind = kind ∧ ¬ Closed t.text then [⟨fault, t.span⟩] else [])
    {ts : List Token} (hlex : ∀ t ∈ ts, t.Lexed) :
    (ts.filterMap Prelude.unended?).filter (·.fault = fault) =
      (ts.filter fun t => t.kind = kind ∧ ¬ Closed t.text).map fun t => ⟨fault, t.span⟩ := by
  induction ts with
  | nil => rfl
  | cons t ts ih =>
    have hcons : (t :: ts).filterMap Prelude.unended? =
        (Prelude.unended? t).toList ++ ts.filterMap Prelude.unended? := by
      cases hu : Prelude.unended? t <;> simp [hu]
    rw [hcons, List.filter_append, h t (hlex t (by simp)),
      ih fun t' ht' => hlex t' (by simp [ht']), List.filter_cons]
    simp only [decide_eq_true_eq]
    split_ifs <;> rfl

lemma forall₂_heads (source : Text) : List.Forall₂ (Braces.Heads (Token.scan source))
    ((Statement.ofTokens (Token.scan source)).foldl Statement.pending [])
    (Braces.ofTokens (Token.scan source)).opened := by
  have hgroups := Statement.groups_ofTokens (Token.scan source)
  exact @Statement.Groups.opened _ _ hgroups (fun t ht => Token.lexed_of_mem_scan ht) []
    (Token.scan_spec source).1 [] ⟨[], []⟩ .nil

lemma isUnclosedBlock_of_heads {all : List Token} {faults : List ParseError} {braces : List Token}
    (h : List.Forall₂ (Braces.Heads all) faults braces) :
    ∀ e ∈ faults, e.fault.isUnclosedBlock = true := by
  induction h with
  | nil => simp
  | cons hhead htail ih =>
    obtain ⟨before, head, after, text, -, -, -, rfl⟩ := hhead
    simpa using ⟨rfl, ih⟩

lemma filter_errors_parse (source : Text) (file : Option Text) {p : ParseFault → Bool}
    (hp : ∀ f, f.isUnclosedBlock = true → p f = false) :
    (parse source file).errors.filter (p ·.fault) =
      (Statement.reported 0 (Statement.ofTokens (Token.scan source))).filter (p ·.fault) := by
  have hnone : ((Statement.ofTokens (Token.scan source)).foldl Statement.pending []).filter
      (p ·.fault) = [] := by
    rw [List.filter_eq_nil_iff]
    intro e he
    simp [hp _ (isUnclosedBlock_of_heads (forall₂_heads source) e he)]
  rw [errors_parse, List.filter_append, hnone, List.append_nil]

lemma filter_unended_parse (source : Text) (file : Option Text) {kind : TokenKind}
    {fault : ParseFault} (hf : fault.isUnended = true) {Closed : Text → Prop}
    [DecidablePred Closed] (h : ∀ t : Token, t.Lexed →
      (Prelude.unended? t).toList.filter (·.fault = fault) =
        if t.kind = kind ∧ ¬ Closed t.text then [⟨fault, t.span⟩] else []) :
    (parse source file).errors.filter (·.fault = fault) =
      ((Token.scan source).filter fun t => t.kind = kind ∧ ¬ Closed t.text).map
        fun t => ⟨fault, t.span⟩ := by
  have hgroups := Statement.groups_ofTokens (Token.scan source)
  have hblock (f : ParseFault) (hb : f.isUnclosedBlock = true) : decide (f = fault) = false := by
    rw [decide_eq_false_iff_not]
    rintro rfl
    cases f <;> simp_all [ParseFault.isUnended, ParseFault.isUnclosedBlock]
  have hsub (es : List ParseError) : es.filter (·.fault = fault) =
      (es.filter (·.fault.isUnended)).filter (·.fault = fault) := by
    rw [List.filter_filter]
    refine List.filter_congr fun e _ => ?_
    by_cases he : e.fault = fault
    · simp [he, hf]
    · simp [he]
  rw [filter_errors_parse source file hblock, hsub, hgroups.filter_isUnended]
  exact filter_unended h fun t ht => Token.lexed_of_mem_scan ht

/-- **Recovery is exact.** Of a source, whatever is wrong with it, these are reported, each once
and nothing else of their kinds: the closing braces that a stack has nothing for, the opening
braces that stay on it, the strings without their closing quotes and the comments without their
ends. And there are as many rules and at-rules with blocks as opening braces. -/
theorem errors_parse_exact (source : Text) (file : Option Text) :
    (parse source file).errors.filter (·.fault = .unexpectedClosingBrace) =
      (Braces.ofTokens (Token.scan source)).stray.map
        (fun t => ⟨.unexpectedClosingBrace, t.span⟩) ∧
    List.Forall₂ (Braces.Heads (Token.scan source))
      ((parse source file).errors.filter (·.fault.isUnclosedBlock))
      (Braces.ofTokens (Token.scan source)).opened ∧
    (parse source file).errors.filter (·.fault = .unclosedString) =
      ((Token.scan source).filter fun t => t.kind = .string ∧ ¬ Token.HasClosingQuote t.text).map
        (fun t => ⟨.unclosedString, t.span⟩) ∧
    (parse source file).errors.filter (·.fault = .unclosedComment) =
      ((Token.scan source).filter fun t => t.kind = .comment ∧ ¬ Token.HasCommentEnd t.text).map
        (fun t => ⟨.unclosedComment, t.span⟩) ∧
    ((parse source file).sheet.nodes.toList.filter (·.data.isRule)).length +
      ((parse source file).sheet.nodes.toList.filter
        fun n => (n.data.atRule?.bind AtRule.body).isSome).length =
      ((Token.scan source).filter (·.kind = .leftBrace)).length := by
  have hgroups := Statement.groups_ofTokens (Token.scan source)
  refine ⟨?_, ?_, ?_, ?_, ?_⟩
  · have hstray := hgroups.stray ⟨[], []⟩
    rw [filter_errors_parse source file (p := (decide <| · = .unexpectedClosingBrace))]
    · exact hstray.symm
    · intro f hf
      cases f <;> simp_all [ParseFault.isUnclosedBlock]
  · have hself : ((Statement.ofTokens (Token.scan source)).foldl Statement.pending []).filter
        (·.fault.isUnclosedBlock) =
        (Statement.ofTokens (Token.scan source)).foldl Statement.pending [] :=
      List.filter_eq_self.mpr (isUnclosedBlock_of_heads (forall₂_heads source))
    rw [errors_parse, List.filter_append, Statement.filter_reported_isUnclosedBlock, hself,
      List.nil_append]
    exact forall₂_heads source
  · exact filter_unended_parse source file rfl fun t _ => filter_unended?_string t
  · exact filter_unended_parse source file rfl fun t ht => filter_unended?_comment ht
  · rw [← blockNodes_eq, blockNodes_parse, List.countP_eq_length_filter]

end Sheet

end StyleScope
