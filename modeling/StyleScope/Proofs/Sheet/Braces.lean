import Mathlib.Data.List.Forall2
import StyleScope.Proofs.Sheet.Bare
import StyleScope.Proofs.Sheet.Growth
import StyleScope.Proofs.Sheet.Reports
import StyleScope.Proofs.Token.Endings

/-!
Braces matched with a stack.

`Braces` matches the braces of a run of tokens as a stack does, with no regard to what stands
between them. Statement by statement a parser comes to the same: the closing braces it reports
are those that the stack has nothing for, and the blocks it leaves open are those whose braces
stay on the stack.
-/

namespace StyleScope

/-- Braces matched with a stack. -/
structure Braces where
  /-- The opening braces that nothing has closed, innermost first. -/
  opened : List Token
  /-- The closing braces that had nothing to close, in order. -/
  stray : List Token
  deriving DecidableEq, Repr

namespace Braces

def step (s : Braces) (t : Token) : Braces :=
  match t.kind with
  | .leftBrace => { s with opened := t :: s.opened }
  | .rightBrace =>
    match s.opened with
    | [] => { s with stray := s.stray ++ [t] }
    | _ :: outer => { s with opened := outer }
  | _ => s

def run (s : Braces) (ts : List Token) : Braces := ts.foldl step s

def ofTokens (ts : List Token) : Braces := run ⟨[], []⟩ ts

@[simp] lemma run_nil (s : Braces) : s.run [] = s := rfl

@[simp] lemma run_cons (s : Braces) (t : Token) (ts : List Token) :
    s.run (t :: ts) = (s.step t).run ts := rfl

lemma run_append (s : Braces) (as bs : List Token) : s.run (as ++ bs) = (s.run as).run bs :=
  List.foldl_append

def Plain (t : Token) : Prop := t.kind ≠ .leftBrace ∧ t.kind ≠ .rightBrace

lemma step_of_plain {t : Token} (h : Plain t) (s : Braces) : s.step t = s := by
  obtain ⟨hl, hr⟩ := h
  unfold step
  split <;> simp_all

lemma run_of_plain {ts : List Token} (h : ∀ t ∈ ts, Plain t) (s : Braces) : s.run ts = s := by
  induction ts with
  | nil => rfl
  | cons t ts ih =>
    rw [run_cons, step_of_plain (h t (by simp)), ih fun t' ht' => h t' (by simp [ht'])]

lemma plain_of_isGap {t : Token} (h : Statement.isGap t.kind = true) : Plain t := by
  simp only [Statement.isGap, Bool.or_eq_true, decide_eq_true_eq] at h
  rcases h with h | h <;> simp [Plain, h]

lemma plain_of_depth? {depth d : Nat} {ts : List Token} (h : Prelude.depth? depth ts = some d) :
    ∀ t ∈ ts, Plain t :=
  (Prelude.depth?_eq_some.mp h).1

/-- The fault of a block is found at the heading of its brace: the text it names stands where the
fault is, and up to the brace there is no other. -/
def Heads (all : List Token) (e : ParseError) (brace : Token) : Prop :=
  ∃ before head after text, all = before ++ (head ++ brace :: after) ∧ (∀ t ∈ head, Plain t) ∧
    text <+: Piece.textOf head ∧
    e = ⟨.unclosedBlock text, Span.between (Piece.textOf before) text⟩

end Braces

/-! ### Braces of a statement -/

namespace Statement

def brace? : Statement → Option Token
  | atRule _ _ (.block brace) => some brace
  | qualified _ (.block brace) => some brace
  | _ => none

lemma nest_eq {st : Statement} (h : ∀ brace, st ≠ closeBlock brace) (depth : Nat) :
    st.nest depth = st.brace?.toList.length + depth := by
  cases st with
  | closeBlock brace => exact absurd rfl (h brace)
  | comment t => simp [nest, brace?]
  | atRule name head ending => cases ending <;> simp [nest, brace?, Nat.add_comm]
  | qualified head ending => cases ending <;> simp [nest, brace?, Nat.add_comm]

lemma pending_eq {st : Statement} (h : ∀ brace, st ≠ closeBlock brace)
    (faults : List ParseError) : st.pending faults = st.opened?.toList ++ faults := by
  cases st with
  | closeBlock brace => exact absurd rfl (h brace)
  | _ => rfl

lemma Shaped.run_tokens {st : Statement} {rest : List Token} (hs : st.Shaped rest) (s : Braces) :
    (∃ brace, st = Statement.closeBlock brace ∧ brace.kind = .rightBrace) ∨
      (∀ brace, st ≠ Statement.closeBlock brace) ∧
        s.run st.tokens = { s with opened := st.brace?.toList ++ s.opened } := by
  have hending {depth : Nat} {ending : PreludeEnd} (he : ending.Follows depth rest) :
      s.run ending.tokens =
        { s with opened := (Statement.qualified [] ending).brace?.toList ++ s.opened } := by
    cases ending with
    | block brace =>
      have hk : brace.kind = .leftBrace := he
      simp [PreludeEnd.tokens, Braces.step, hk, brace?]
    | semicolon mark =>
      have hplain : Braces.Plain mark := by simp [Braces.Plain, he.1]
      simp [PreludeEnd.tokens, Braces.step_of_plain hplain, brace?]
    | close => rfl
  cases hs with
  | closeBlock hk => exact .inl ⟨_, rfl, hk⟩
  | @comment t hk =>
    have hplain : Braces.Plain t := by simp [Braces.Plain, hk]
    exact .inr ⟨by simp, by simp [tokens, Braces.step_of_plain hplain, brace?]⟩
  | @bare brace hk => exact .inr ⟨by simp, @hending 0 (.block brace) hk⟩
  | @atRule name head ending d hk hd he =>
    have hname : Braces.Plain name := by rcases hk with hk | hk <;> simp [Braces.Plain, hk]
    refine .inr ⟨by simp, ?_⟩
    rw [tokens, List.cons_append, Braces.run_cons, Braces.step_of_plain hname, Braces.run_append,
      Braces.run_of_plain (Braces.plain_of_depth? hd), hending he]
    cases ending <;> rfl
  | @qualified t head ending d hk hd he =>
    refine .inr ⟨by simp, ?_⟩
    rw [tokens, Braces.run_append, Braces.run_of_plain (Braces.plain_of_depth? hd), hending he]
    cases ending <;> rfl

lemma Shaped.heads {st : Statement} {rest before : List Token} (hs : st.Shaped rest)
    (ha : Piece.Adjacent 0 (before ++ (st.tokens ++ rest)))
    (hlex : ∀ t ∈ st.tokens, t.Lexed) :
    List.Forall₂ (Braces.Heads (before ++ (st.tokens ++ rest))) st.opened?.toList
      st.brace?.toList := by
  have hstart := (Piece.adjacent_append.mp ha).2
  rw [Nat.zero_add] at hstart
  have hrule {head : List Token} {brace : Token} (hplain : ∀ t ∈ head, Braces.Plain t)
      (hbegin : (head.head?.map Piece.start).getD brace.start = (Piece.textOf before).size) :
      List.Forall₂ (Braces.Heads (before ++ ((Statement.qualified head (.block brace)).tokens ++
        rest))) (Statement.qualified head (.block brace)).opened?.toList
        (Statement.qualified head (.block brace)).brace?.toList := by
    refine .cons ⟨before, head, rest, Piece.textOf (Prelude.content head), ?_, hplain, ?_, ?_⟩ .nil
    · simp [tokens, PreludeEnd.tokens]
    · exact ⟨_, Prelude.textOf_content_append_trailing head⟩
    · rw [hbegin]
      rfl
  cases hs with
  | closeBlock hk => exact .nil
  | comment hk => exact .nil
  | @bare brace hk => exact hrule (by simp) hstart.1
  | @atRule name head ending d hk hd he =>
    cases ending with
    | block brace =>
      have hname : Braces.Plain name := by rcases hk with hk | hk <;> simp [Braces.Plain, hk]
      -- the name of the block is the text of its keyword
      have htext := (hlex name (by simp [tokens])).at_cons_drop hk
      refine .cons ⟨before, name :: head, rest, name.text, ?_, ?_, ?_, ?_⟩ .nil
      · simp [tokens, PreludeEnd.tokens]
      · simpa using ⟨hname, Braces.plain_of_depth? hd⟩
      · exact ⟨Piece.textOf head, rfl⟩
      · rw [htext, Piece.span, Piece.stop, hstart.1]
        rfl
    | _ => exact .nil
  | @qualified t head ending d hk hd he =>
    cases ending with
    | block brace => exact hrule (Braces.plain_of_depth? hd) hstart.1
    | _ => exact .nil

end Statement

/-! ### Faults of a statement -/

namespace ParseFault

def isUnclosedBlock : ParseFault → Bool
  | unclosedBlock _ => true
  | _ => false

/-- A brace without its partner. -/
def isBrace : ParseFault → Bool
  | unexpectedClosingBrace | unclosedBlock _ => true
  | _ => false

def isUnended : ParseFault → Bool
  | unclosedString | unclosedComment => true
  | _ => false

end ParseFault

namespace Statement

lemma isUnended_of_unended? {t : Token} {e : ParseError} (h : Prelude.unended? t = some e) :
    e.fault.isUnended = true := by
  unfold Prelude.unended? at h
  split at h
  · split_ifs at h
    rw [← Option.some.inj h]
    rfl
  · split_ifs at h
    rw [← Option.some.inj h]
    rfl
  · cases h

lemma isBrace_of_mem_errors {head : List Token} {e : ParseError} (h : e ∈ Prelude.errors head) :
    e.fault.isBrace = false := by
  rcases List.mem_append.mp h with h | h
  · obtain ⟨t, -, ht⟩ := List.mem_filterMap.mp h
    have hunended := isUnended_of_unended? ht
    cases hf : e.fault <;> simp_all [ParseFault.isUnended, ParseFault.isBrace]
  · obtain ⟨t, -, rfl⟩ := List.mem_map.mp h
    rfl

lemma filter_errors_isUnended (head : List Token) :
    (Prelude.errors head).filter (·.fault.isUnended) = head.filterMap Prelude.unended? := by
  rw [Prelude.errors, List.filter_append]
  have hended : (head.filterMap Prelude.unended?).filter (·.fault.isUnended) =
      head.filterMap Prelude.unended? := by
    rw [List.filter_eq_self]
    intro e he
    obtain ⟨t, -, ht⟩ := List.mem_filterMap.mp he
    exact isUnended_of_unended? ht
  have hbrackets : ((Prelude.openBrackets [] head).reverse.map Prelude.unclosedBracket).filter
      (·.fault.isUnended) = [] := by
    rw [List.filter_eq_nil_iff]
    intro e he
    obtain ⟨t, -, rfl⟩ := List.mem_map.mp he
    simp [Prelude.unclosedBracket, ParseFault.isUnended]
  rw [hended, hbrackets, List.append_nil]

lemma fault_of_mem_misplaced {inside : Bool} {content : List Token} {e : ParseError}
    (h : e ∈ misplaced inside content) : ∃ word, e.fault = .unknownWord word := by
  unfold misplaced at h
  split at h
  · simp at h
  · split_ifs at h
    · simp at h
    · exact ⟨_, by rw [List.mem_singleton.mp h]⟩

lemma eq_of_mem_reports {inside : Bool} {st : Statement} {e : ParseError}
    (h : e ∈ st.reports inside) (hb : e.fault.isBrace = true) :
    ∃ brace, st = closeBlock brace ∧ inside = false ∧
      e = ⟨.unexpectedClosingBrace, brace.span⟩ := by
  have hhead {head : List Token} (h : e ∈ Prelude.errors head) : False := by
    simp [isBrace_of_mem_errors h] at hb
  have hword {content : List Token} (h : e ∈ misplaced inside content) : False := by
    obtain ⟨word, hword⟩ := fault_of_mem_misplaced h
    simp [hword, ParseFault.isBrace] at hb
  have hone {fault : ParseFault} {span : Span} (h : e ∈ [⟨fault, span⟩]) :
      fault.isBrace = true := by
    rwa [List.mem_singleton.mp h] at hb
  cases st with
  | closeBlock brace =>
    cases inside with
    | true => simp [reports] at h
    | false => exact ⟨brace, rfl, rfl, by simpa [reports] using h⟩
  | comment t =>
    simp only [reports] at h
    split_ifs at h
    · simp at h
    · cases hone h
  | atRule name head ending =>
    rcases List.mem_append.mp h with h | h
    · split_ifs at h
      · cases hone h
      · simp at h
    · exact (hhead h).elim
  | qualified head ending =>
    cases ending with
    | block brace =>
      rcases List.mem_append.mp h with h | h
      · exact (hhead h).elim
      · split_ifs at h
        · cases hone h
        · simp at h
    | semicolon mark => exact (List.mem_append.mp h).elim (False.elim ∘ hhead) (False.elim ∘ hword)
    | close => exact (List.mem_append.mp h).elim (False.elim ∘ hhead) (False.elim ∘ hword)

lemma Shaped.filter_isUnended {st : Statement} {rest : List Token} (hs : st.Shaped rest)
    (inside : Bool) :
    (st.reports inside).filter (·.fault.isUnended) = st.tokens.filterMap Prelude.unended? := by
  have hother {t : Token} (hs : t.kind ≠ .string) (hc : t.kind ≠ .comment) :
      Prelude.unended? t = none := by
    unfold Prelude.unended?
    split <;> simp_all
  have hending {depth : Nat} {ending : PreludeEnd} (he : ending.Follows depth rest) :
      ending.tokens.filterMap Prelude.unended? = [] := by
    cases ending with
    | block brace =>
      have hk : brace.kind = .leftBrace := he
      simp [PreludeEnd.tokens, hother, hk]
    | semicolon mark => simp [PreludeEnd.tokens, hother, he.1]
    | close => rfl
  have hqualified {head : List Token} {ending : PreludeEnd} :
      ((Statement.qualified head ending).reports inside).filter (·.fault.isUnended) =
        head.filterMap Prelude.unended? := by
    -- content that is out of place is reported as a word
    have hword (content : List Token) :
        (misplaced inside content).filter (·.fault.isUnended) = [] := by
      rw [List.filter_eq_nil_iff]
      intro e he
      obtain ⟨word, hword⟩ := fault_of_mem_misplaced he
      simp [hword, ParseFault.isUnended]
    cases ending with
    | block brace =>
      rw [reports, List.filter_append, filter_errors_isUnended]
      split_ifs <;> simp [ParseFault.isUnended]
    | semicolon mark => simp only [reports, List.filter_append, filter_errors_isUnended, hword,
        List.append_nil]
    | close => simp only [reports, List.filter_append, filter_errors_isUnended, hword,
        List.append_nil]
  cases hs with
  | @closeBlock brace hk =>
    have hbrace : Prelude.unended? brace = none := hother (by simp [hk]) (by simp [hk])
    cases inside <;> simp [reports, tokens, hbrace, ParseFault.isUnended]
  | @comment t hk =>
    simp only [reports, tokens, Prelude.unended?, List.filterMap_cons, hk]
    split_ifs <;> simp [ParseFault.isUnended]
  | @bare brace hk =>
    rw [hqualified, tokens, List.filterMap_append, @hending 0 (.block brace) hk, List.append_nil]
  | @atRule name head ending d hk hd he =>
    have hname : Prelude.unended? name = none := by
      rcases hk with hk | hk <;> exact hother (by simp [hk]) (by simp [hk])
    rw [reports, tokens, List.cons_append, List.filterMap_cons_none hname, List.filterMap_append,
      hending he, List.append_nil, List.filter_append, filter_errors_isUnended]
    split_ifs <;> simp [ParseFault.isUnended]
  | @qualified t head ending d hk hd he =>
    rw [hqualified, tokens, List.filterMap_append, hending he, List.append_nil]

/-! ### Faults of a source -/

variable {ts : List Token} {sts : List Statement}

/-- **Strings and comments without their ends are reported in order, each once.** -/
theorem Groups.filter_isUnended (h : Groups ts sts) (depth : Nat) :
    (reported depth sts).filter (·.fault.isUnended) = ts.filterMap Prelude.unended? := by
  induction h generalizing depth with
  | nil => rfl
  | @gap t ts sts hk h ih =>
    have hgap : Prelude.unended? t = none := by
      simp only [isGap, Bool.or_eq_true, decide_eq_true_eq] at hk
      rcases hk with hk | hk <;> simp [Prelude.unended?, hk]
    rw [ih, List.filterMap_cons_none hgap]
  | @take st rest sts hs h ih =>
    rw [reported, List.filter_append, hs.filter_isUnended, ih, List.filterMap_append]

/-- **The closing braces that are reported are those that a stack has nothing for.** -/
theorem Groups.stray (h : Groups ts sts) (s : Braces) :
    (s.run ts).stray.map (fun t => ParseError.mk .unexpectedClosingBrace t.span) =
      s.stray.map (fun t => ParseError.mk .unexpectedClosingBrace t.span) ++
        (reported s.opened.length sts).filter (·.fault = .unexpectedClosingBrace) := by
  induction h generalizing s with
  | nil => simp [reported]
  | @gap t ts sts hk h ih =>
    rw [Braces.run_cons, Braces.step_of_plain (Braces.plain_of_isGap hk), ih]
  | @take st rest sts hs h ih =>
    rw [Braces.run_append, ih, reported, List.filter_append, ← List.append_assoc]
    rcases hs.run_tokens s with ⟨brace, rfl, hk⟩ | ⟨hst, hrun⟩
    · -- a closing brace, which is reported when the stack is empty
      rcases hopened : s.opened with _ | ⟨left, outer⟩
      · simp [tokens, Braces.step, hk, hopened, reports, nest]
      · simp [tokens, Braces.step, hk, hopened, reports, nest]
    · have hnone : (st.reports (s.opened.length != 0)).filter
          (·.fault = .unexpectedClosingBrace) = [] := by
        rw [List.filter_eq_nil_iff]
        intro e he hb
        obtain ⟨brace, heq, -⟩ := eq_of_mem_reports he (by rw [of_decide_eq_true hb]; rfl)
        exact hst brace heq
      rw [hrun, hnone, List.append_nil, nest_eq hst, ← List.length_append]

lemma filter_reported_isUnclosedBlock (depth : Nat) (sts : List Statement) :
    (reported depth sts).filter (·.fault.isUnclosedBlock) = [] := by
  induction sts generalizing depth with
  | nil => rfl
  | cons st sts ih =>
    rw [reported, List.filter_append, ih, List.append_nil, List.filter_eq_nil_iff]
    intro e he hb
    have hbrace : e.fault.isBrace = true := by
      cases hf : e.fault <;> simp_all [ParseFault.isUnclosedBlock, ParseFault.isBrace]
    obtain ⟨brace, -, -, rfl⟩ := eq_of_mem_reports he hbrace
    cases hb

/-- **The blocks left open are those whose braces stay on the stack.** -/
theorem Groups.opened (h : Groups ts sts) (hlex : ∀ t ∈ ts, t.Lexed) {before : List Token}
    (ha : Piece.Adjacent 0 (before ++ ts)) {faults : List ParseError} {s : Braces}
    (hf : List.Forall₂ (Braces.Heads (before ++ ts)) faults s.opened) :
    List.Forall₂ (Braces.Heads (before ++ ts)) (sts.foldl pending faults) (s.run ts).opened := by
  induction h generalizing before faults s with
  | nil => exact hf
  | @gap t ts sts hk h ih =>
    rw [Braces.run_cons, Braces.step_of_plain (Braces.plain_of_isGap hk)]
    have happ : before ++ t :: ts = before ++ [t] ++ ts := by simp
    rw [happ] at ha hf ⊢
    exact ih (fun t' ht' => hlex t' (by simp [ht'])) ha hf
  | @take st rest sts hs h ih =>
    have hheads := hs.heads ha fun t ht => hlex t (by simp [ht])
    rw [Braces.run_append, List.foldl_cons]
    have happ : before ++ (st.tokens ++ rest) = before ++ st.tokens ++ rest := by simp
    rw [happ] at ha hf hheads ⊢
    refine ih (fun t ht => hlex t (by simp [ht])) ha ?_
    rcases hs.run_tokens s with ⟨brace, rfl, hk⟩ | ⟨hst, hrun⟩
    · obtain ⟨opened, stray⟩ := s
      cases hf with
      | nil => simp [pending, tokens, Braces.step, hk]
      | cons hhead htail => simpa [pending, tokens, Braces.step, hk] using htail
    · rw [hrun, pending_eq hst]
      exact List.rel_append hheads hf

lemma Shaped.countP_leftBrace {st : Statement} {rest : List Token} (hs : st.Shaped rest)
    (depth : Nat) : st.tokens.countP (·.kind = .leftBrace) = st.nest depth - depth := by
  have hhead {d : Nat} {head : List Token} (hd : Prelude.depth? 0 head = some d) :
      head.countP (·.kind = .leftBrace) = 0 := by
    rw [List.countP_eq_zero]
    intro t ht
    simp [(Braces.plain_of_depth? hd t ht).1]
  have hending {d : Nat} {ending : PreludeEnd} (he : ending.Follows d rest) :
      ending.tokens.countP (·.kind = .leftBrace) =
        (Statement.qualified [] ending).nest depth - depth := by
    cases ending with
    | block brace =>
      have hk : brace.kind = .leftBrace := he
      simp [PreludeEnd.tokens, hk, nest]
    | semicolon mark => simp [PreludeEnd.tokens, he.1, nest]
    | close => simp [PreludeEnd.tokens, nest]
  cases hs with
  | closeBlock hk => simp [tokens, hk, nest]
  | comment hk => simp [tokens, hk, nest]
  | @bare brace hk => exact @hending 0 (.block brace) hk
  | @atRule name head ending d hk hd he =>
    have hname : name.kind ≠ .leftBrace := by rcases hk with hk | hk <;> simp [hk]
    have hnest : (Statement.atRule name head ending).nest depth =
        (Statement.qualified [] ending).nest depth := by cases ending <;> rfl
    rw [tokens, List.cons_append, List.countP_cons_of_neg (by simpa using hname),
      List.countP_append, hhead hd, Nat.zero_add, hending he, hnest]
  | @qualified t head ending d hk hd he =>
    have hnest : (Statement.qualified (t :: head) ending).nest depth =
        (Statement.qualified [] ending).nest depth := by cases ending <;> rfl
    rw [tokens, List.countP_append, hhead hd, Nat.zero_add, hending he, hnest]

end Statement

end StyleScope
