import StyleScope.Proofs.Sheet.Groups
import StyleScope.Proofs.Text.Cut
import StyleScope.Proofs.Text.Trim
import StyleScope.Proofs.Token.Lexeme
import StyleScope.Sheet.Parser

/-!
The rules of a parsed sheet.

A node keeps what it was added with: closing its block gives it children and a span, and
nothing else of it changes. The rules of a parsed sheet are therefore the statements that end
with a block, in the order of the source, whatever went wrong around them.
-/

namespace StyleScope

namespace Prelude

lemma content_append_trailing (ts : List Token) : content ts ++ trailing ts = ts :=
  dropTailWhile_append_drop _ ts

lemma textOf_content_append_trailing (ts : List Token) :
    Piece.textOf (content ts) ++ Piece.textOf (trailing ts) = Piece.textOf ts := by
  rw [← Piece.textOf_append, content_append_trailing]

lemma isTrivia_of_mem_trailing {ts : List Token} {t : Token} (ht : t ∈ trailing ts) :
    t.kind.isTrivia = true := by
  obtain ⟨tail, hts, htail⟩ := exists_dropTailWhile_append (·.kind.isTrivia) ts
  have heq : trailing ts = tail := by
    have happ := content_append_trailing ts
    conv_rhs at happ => rw [hts]
    exact List.append_cancel_left happ
  exact htail t (heq ▸ ht)

lemma content_of_startsHead {t : Token} (hk : t.kind.startsHead = true) (ts : List Token) :
    content (t :: ts) = t :: content ts := by
  have hne : ¬ (dropTailWhile (fun t : Token => t.kind.isTrivia) ts = [] ∧
      t.kind.isTrivia = true) := by
    rintro ⟨-, htriv⟩
    cases h : t.kind <;> simp [h, TokenKind.startsHead, TokenKind.isTrivia] at hk htriv
  rw [content, dropTailWhile_cons, if_neg hne]
  rfl

end Prelude

def Rule.childless (r : Rule) : Rule := { r with children := [] }

def Statement.rule? : Statement → Option Rule
  | .qualified head (.block brace) =>
    some ⟨Piece.textOf (Prelude.content head),
      Prelude.spanFrom ((head.head?.map Piece.start).getD brace.start) (Prelude.content head),
      Piece.textOf (Prelude.trailing head), []⟩
  | _ => none

/-! ### What closing a block leaves alone -/

lemma toList_map_modify {α β : Type} {g : α → β} {f : α → α} (h : ∀ a, g (f a) = g a)
    (as : Array α) (i : Nat) : (as.modify i f).toList.map g = as.toList.map g := by
  apply List.ext_getElem?
  intro j
  simp only [List.getElem?_map, Array.getElem?_toList, Array.getElem?_modify]
  split_ifs with hij
  · subst hij
    cases as[i]? <;> simp [h]
  · rfl

/-- A node with the children and the span that closing its block gives it. -/
def OpenBlock.finish (block : OpenBlock) (stop : Nat) (n : Node) : Node :=
  { n with data := n.data.withChildren block.children, span := ⟨block.start, stop⟩ }

namespace SheetBuilder

section Attribute

variable {β : Type} {g : Node → β} (hg : ∀ block stop n, g (OpenBlock.finish block stop n) = g n)

include hg in
lemma map_nodes_finishBlock (b : SheetBuilder) (block : OpenBlock) (stop : Nat) :
    (b.finishBlock block stop).nodes.toList.map g = b.nodes.toList.map g :=
  toList_map_modify (hg block stop) _ _

include hg in
lemma map_nodes_closeBlock (b : SheetBuilder) (brace : Token) :
    (b.closeBlock brace).nodes.toList.map g = b.nodes.toList.map g := by
  unfold closeBlock
  split
  · rfl
  · exact map_nodes_finishBlock hg _ _ _

include hg in
lemma map_nodes_closeAll (size : Nat) (b : SheetBuilder) :
    (b.closeAll size).nodes.toList.map g = b.nodes.toList.map g := by
  have hfold (blocks : List OpenBlock) (c : SheetBuilder) :
      (blocks.foldl (fun c block => (c.report (.unclosedBlock block.openedBy)
        block.opener).finishBlock block size) c).nodes.toList.map g = c.nodes.toList.map g := by
    induction blocks generalizing c with
    | nil => rfl
    | cons block blocks ih => rw [List.foldl_cons, ih, map_nodes_finishBlock hg]; rfl
  exact hfold _ _

end Attribute

/-! ### The rules found so far -/

def headOf (n : Node) : Option Rule := n.data.rule?.map Rule.childless

lemma headOf_finish (block : OpenBlock) (stop : Nat) (n : Node) :
    headOf (block.finish stop n) = headOf n := by
  obtain ⟨data, parent, span⟩ := n
  cases data <;> rfl

/-- The rules of the nodes found so far, before their blocks. -/
def heads (b : SheetBuilder) : List Rule := b.nodes.toList.filterMap headOf

lemma heads_eq {b c : SheetBuilder}
    (h : b.nodes.toList.map headOf = c.nodes.toList.map headOf) : b.heads = c.heads := by
  have hid (d : SheetBuilder) : d.heads = (d.nodes.toList.map headOf).filterMap id := by
    simp [heads, List.filterMap_map]
  rw [hid, hid, h]

@[simp] lemma heads_report (b : SheetBuilder) (fault : ParseFault) (span : Span) :
    (b.report fault span).heads = b.heads := rfl

@[simp] lemma heads_reportAll (b : SheetBuilder) (errors : List ParseError) :
    (b.reportAll errors).heads = b.heads := rfl

lemma heads_add (b : SheetBuilder) (data : NodeData) (span : Span) :
    (b.add data span).heads = b.heads ++ (data.rule?.map Rule.childless).toList := by
  unfold add heads
  cases h : data.rule? <;> split <;> simp [headOf, h]

lemma heads_addBlock (b : SheetBuilder) (data : NodeData) (start : Nat) (openedBy : Text)
    (opener : Span) : (b.addBlock data start openedBy opener).heads =
      b.heads ++ (data.rule?.map Rule.childless).toList :=
  heads_add b data opener

lemma heads_step (b : SheetBuilder) (st : Statement) :
    (b.step st).heads = b.heads ++ st.rule?.toList := by
  cases st with
  | closeBlock brace =>
    simpa [step, Statement.rule?] using heads_eq (map_nodes_closeBlock headOf_finish b brace)
  | comment t =>
    simp only [step, addComment, Statement.rule?]
    split_ifs <;> simp [heads_add, NodeData.rule?]
  | atRule name head ending =>
    simp only [step, addAtRule, Statement.rule?]
    split_ifs <;> cases ending <;> simp [heads_add, heads_addBlock, NodeData.rule?]
  | qualified head ending =>
    cases ending with
    | block brace =>
      simp only [step, addRule, Statement.rule?]
      split_ifs <;> simp [heads_addBlock, NodeData.rule?, Rule.childless]
    | semicolon mark =>
      simp only [step, addDeclaration, Statement.rule?]
      repeat' split
      all_goals simp [heads_add, NodeData.rule?]
    | close =>
      simp only [step, addDeclaration, Statement.rule?]
      repeat' split
      all_goals simp [heads_add, NodeData.rule?]

lemma heads_foldl_step (sts : List Statement) (b : SheetBuilder) :
    (sts.foldl step b).heads = b.heads ++ sts.filterMap Statement.rule? := by
  induction sts generalizing b with
  | nil => simp
  | cons st sts ih =>
    rw [List.foldl_cons, ih, heads_step, List.filterMap_cons]
    cases st.rule? <;> simp

end SheetBuilder

/-! ### The rules of a parsed sheet -/

namespace Sheet

lemma map_snd_rulesFrom (id : NodeId) (ns : List Node) :
    (rulesFrom id ns).map Prod.snd = ns.filterMap (·.data.rule?) := by
  induction ns generalizing id with
  | nil => rfl
  | cons n ns ih =>
    rw [rulesFrom, List.filterMap_cons]
    cases n.data.rule? <;> simp [ih]

/-- **The rules of a parsed sheet are the statements that open a rule.** -/
theorem childless_rules_parse (source : Text) (file : Option Text) :
    ((parse source file).sheet.rules.map Prod.snd).map Rule.childless =
      (Statement.ofTokens (Token.scan source)).filterMap Statement.rule? := by
  have hrun := SheetBuilder.heads_foldl_step (Statement.ofTokens (Token.scan source)) .empty
  have hclose := SheetBuilder.heads_eq (SheetBuilder.map_nodes_closeAll SheetBuilder.headOf_finish
    source.size ((Statement.ofTokens (Token.scan source)).foldl SheetBuilder.step .empty))
  rw [rules, map_snd_rulesFrom, List.map_filterMap]
  exact hclose.trans hrun

lemma exists_prelude_of_mem_rules {source : Text} {file : Option Text} {id : NodeId} {r : Rule}
    (hr : (id, r) ∈ (parse source file).sheet.rules) :
    ∃ pre head brace post, Token.scan source = pre ++ (head ++ brace :: post) ∧
      Statement.qualified head (.block brace) ∈ Statement.ofTokens (Token.scan source) ∧
      r.selector = Piece.textOf (Prelude.content head) ∧
      r.between = Piece.textOf (Prelude.trailing head) ∧
      r.selectorSpan = Span.between (Piece.textOf pre) r.selector := by
  have hmem : r.childless ∈
      ((parse source file).sheet.rules.map Prod.snd).map Rule.childless :=
    List.mem_map_of_mem (List.mem_map_of_mem hr)
  rw [childless_rules_parse] at hmem
  obtain ⟨st, hst, hrule⟩ := List.mem_filterMap.mp hmem
  match st, hrule with
  | .qualified head (.block brace), hrule =>
    have hgroups := Statement.groups_ofTokens (Token.scan source)
    obtain ⟨pre, post, hscan, -⟩ := hgroups.exists_of_mem hst
    simp only [Statement.tokens, PreludeEnd.tokens, List.append_assoc, List.cons_append,
      List.nil_append] at hscan
    -- the prelude begins where the tokens before it end
    have hadj := (Token.scan_spec source).1
    rw [hscan] at hadj
    have hstart : (head.head?.map Piece.start).getD brace.start = (Piece.textOf pre).size := by
      have hhead := (Piece.adjacent_append.mp hadj).2
      rw [Nat.zero_add] at hhead
      rcases head with _ | ⟨t, head⟩
      · exact hhead.1
      · exact hhead.1
    simp only [Statement.rule?, Option.some.injEq, hstart] at hrule
    obtain ⟨selector, span, between, children⟩ := r
    simp only [Rule.childless, Rule.mk.injEq] at hrule
    obtain ⟨rfl, rfl, rfl, -⟩ := hrule
    exact ⟨pre, head, brace, post, hscan, hst, rfl, rfl, rfl⟩

end Sheet
end StyleScope
