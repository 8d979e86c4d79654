import StyleScope.Proofs.Sheet.Bare

/-!
The signs of a source without faults.

In a source without faults every string and every comment has its end, so its signs are those of
its tokens. The number of open brackets is a function of the signs, and the braces among them
open as many blocks as they close.
-/

namespace StyleScope

/-! ### Brackets and braces among signs -/

namespace Mode

/-- The number of open brackets after signs, unless one of them ends the prelude. -/
def walk : Nat → List Char → Option Nat
  | depth, [] => some depth
  | depth, c :: cs =>
    if c = '{' ∨ c = '}' ∨ c = ';' ∧ depth = 0 then none
    else if c = '(' ∨ c = '[' then walk (depth + 1) cs
    else if c = ')' ∨ c = ']' then walk (depth - 1) cs
    else walk depth cs

/-- The number of blocks that signs open, less those that they close. -/
def tilt : List Char → Int
  | [] => 0
  | c :: cs => (if c = '{' then 1 else if c = '}' then -1 else 0) + tilt cs

@[simp] lemma tilt_nil : tilt [] = 0 := rfl

@[simp] lemma tilt_append (as bs : List Char) : tilt (as ++ bs) = tilt as + tilt bs := by
  induction as with
  | nil => simp
  | cons c as ih => rw [List.cons_append, tilt, tilt, ih, Int.add_assoc]

lemma tilt_of_walk {depth d : Nat} {cs : List Char} (h : walk depth cs = some d) :
    tilt cs = 0 := by
  induction cs generalizing depth with
  | nil => rfl
  | cons c cs ih =>
    rw [walk] at h
    split_ifs at h with hstop
    all_goals
      rw [tilt, ih h]
      simp only [not_or] at hstop
      simp [hstop.1, hstop.2.1]

end Mode

namespace Token

def signs (ts : List Token) : List Char := ts.filterMap (·.kind.sign?)

@[simp] lemma signs_nil : signs [] = [] := rfl

lemma signs_cons (t : Token) (ts : List Token) :
    signs (t :: ts) = t.kind.sign?.toList ++ signs ts := by
  rw [signs, List.filterMap_cons]
  cases t.kind.sign? <;> rfl

@[simp] lemma signs_append (as bs : List Token) : signs (as ++ bs) = signs as ++ signs bs :=
  List.filterMap_append

lemma newline_notMem (ts : List Token) : '\n' ∉ signs ts := by
  intro h
  obtain ⟨t, -, ht⟩ := List.mem_filterMap.mp h
  cases hk : t.kind <;> simp [hk, TokenKind.sign?] at ht

end Token

lemma Prelude.depth?_eq_walk (depth : Nat) (ts : List Token) :
    depth? depth ts = Mode.walk depth (Token.signs ts) := by
  induction ts generalizing depth with
  | nil => rfl
  | cons t ts ih =>
    rw [depth?, ih, Token.signs_cons]
    cases hk : t.kind <;>
      simp [TokenKind.sign?, TokenKind.deepen, Mode.walk, -List.cons_append]

/-! ### Sources without faults -/

namespace Statement

lemma ended_of_kind {kind : TokenKind} (hs : kind ≠ .string) (hc : kind ≠ .comment) (text : Text) :
    Token.Ended kind text :=
  ⟨fun h => absurd h hs, fun h => absurd h hc⟩

lemma Shaped.ended {st : Statement} {rest : List Token} (hs : st.Shaped rest) {inside : Bool}
    (hf : st.Faultless inside) : ∀ t ∈ st.tokens, Token.Ended t.kind t.text := by
  have hending {depth : Nat} {ending : PreludeEnd} (he : ending.Follows depth rest) :
      ∀ t ∈ ending.tokens, Token.Ended t.kind t.text := by
    cases ending with
    | block brace =>
      have hk : brace.kind = .leftBrace := he
      simpa [PreludeEnd.tokens] using ended_of_kind (by simp [hk]) (by simp [hk]) brace.text
    | semicolon mark =>
      have hk : mark.kind = .semicolon := he.1
      simpa [PreludeEnd.tokens] using ended_of_kind (by simp [hk]) (by simp [hk]) mark.text
    | close => simp [PreludeEnd.tokens]
  cases hs with
  | @closeBlock brace hk =>
    simpa [tokens] using ended_of_kind (by simp [hk]) (by simp [hk]) brace.text
  | @comment t hk =>
    have hc : Token.isClosedComment t.text = true := hf
    have ht : Token.Ended t.kind t.text := ⟨by simp [hk], fun _ => hc⟩
    simpa [tokens] using ht
  | @bare brace hk =>
    simpa [tokens, PreludeEnd.tokens] using ended_of_kind (by simp [hk]) (by simp [hk]) brace.text
  | @atRule name head ending depth hk hd he =>
    have hname : Token.Ended name.kind name.text := by
      rcases hk with hk | hk <;> exact ended_of_kind (by simp [hk]) (by simp [hk]) name.text
    have hhead := (Prelude.errors_eq_nil.mp hf.2).1
    intro t ht
    simp only [tokens, List.cons_append, List.mem_cons, List.mem_append] at ht
    rcases ht with rfl | ht | ht
    · exact hname
    · exact hhead t ht
    · exact hending he t ht
  | @qualified t head ending depth hk hd he =>
    have herrors : Prelude.errors (t :: head) = [] := by
      cases ending <;> exact hf.1
    have hhead := (Prelude.errors_eq_nil.mp herrors).1
    intro t' ht'
    rcases List.mem_append.mp ht' with ht' | ht'
    · exact hhead t' ht'
    · exact hending he t' ht'

/-- **In a source without faults every string and every comment has its end.** -/
theorem Groups.ended {ts : List Token} {sts : List Statement} (h : Groups ts sts)
    (hf : ∀ st ∈ sts, ∃ inside, st.Faultless inside) :
    ∀ t ∈ ts, Token.Ended t.kind t.text := by
  induction h with
  | nil => simp
  | @gap t ts sts hk h ih =>
    have ht : Token.Ended t.kind t.text := by
      refine ended_of_kind ?_ ?_ t.text <;> rintro hk' <;> simp [hk', isGap] at hk
    simpa using ⟨ht, ih hf⟩
  | @take st rest sts hs h ih =>
    obtain ⟨inside, hst⟩ := hf st (by simp)
    intro t ht
    rcases List.mem_append.mp ht with ht | ht
    · exact hs.ended hst t ht
    · exact ih (fun st' hst' => hf st' (by simp [hst'])) t ht

lemma Shaped.tilt {st : Statement} {rest : List Token} (hs : st.Shaped rest) {depth : Nat}
    (hf : st.Faultless (depth != 0)) :
    Mode.tilt (Token.signs st.tokens) = (st.nest depth : Int) - depth := by
  have hsign (t : Token) : Token.signs [t] = t.kind.sign?.toList := by
    rw [Token.signs_cons, Token.signs_nil, List.append_nil]
  have hhead {d : Nat} {head : List Token} (hd : Prelude.depth? 0 head = some d) :
      Mode.tilt (Token.signs head) = 0 := by
    rw [Prelude.depth?_eq_walk] at hd
    exact Mode.tilt_of_walk hd
  have hending {d : Nat} {ending : PreludeEnd} (he : ending.Follows d rest) :
      Mode.tilt (Token.signs ending.tokens) =
        ((Statement.qualified [] ending).nest depth : Int) - depth := by
    cases ending with
    | block brace =>
      have hk : brace.kind = .leftBrace := he
      simp only [PreludeEnd.tokens, hsign, hk, TokenKind.sign?, Option.toList_some, nest]
      rw [show Mode.tilt ['{'] = 1 from rfl]
      omega
    | semicolon mark =>
      have hk : mark.kind = .semicolon := he.1
      simp only [PreludeEnd.tokens, hsign, hk, TokenKind.sign?, Option.toList_some, nest]
      rw [show Mode.tilt [';'] = 0 from rfl]
      omega
    | close => simp [PreludeEnd.tokens, nest]
  cases hs with
  | @closeBlock brace hk =>
    -- outside of all blocks the brace would be a fault
    have hdepth : depth ≠ 0 := by simpa [Faultless] using hf
    simp only [tokens, hsign, hk, TokenKind.sign?, Option.toList_some, nest]
    rw [show Mode.tilt ['}'] = -1 from rfl]
    omega
  | comment hk => simp [tokens, hsign, hk, TokenKind.sign?, nest]
  | @bare brace hk => exact @hending 0 (.block brace) hk
  | @atRule name head ending d hk hd he =>
    have hname : name.kind.sign? = none := by rcases hk with hk | hk <;> rw [hk] <;> rfl
    have hnest : (Statement.atRule name head ending).nest depth =
        (Statement.qualified [] ending).nest depth := by cases ending <;> rfl
    rw [tokens, List.cons_append, Token.signs_cons, hname, Option.toList_none, List.nil_append,
      Token.signs_append, Mode.tilt_append, hhead hd, Int.zero_add, hending he, hnest]
  | @qualified t head ending d hk hd he =>
    have hnest : (Statement.qualified (t :: head) ending).nest depth =
        (Statement.qualified [] ending).nest depth := by cases ending <;> rfl
    rw [tokens, Token.signs_append, Mode.tilt_append, hhead hd, Int.zero_add, hending he, hnest]

/-- **The braces of a source without faults close what they open.** -/
theorem Groups.tilt {ts : List Token} {sts : List Statement} (h : Groups ts sts) {depth : Nat}
    (hs : Sound depth sts) : Mode.tilt (Token.signs ts) = -(depth : Int) := by
  induction h generalizing depth with
  | nil =>
    have hdepth : depth = 0 := hs
    simp [hdepth]
  | @gap t ts sts hk h ih =>
    have hsign : Mode.tilt t.kind.sign?.toList = 0 := by
      simp only [isGap, Bool.or_eq_true, decide_eq_true_eq] at hk
      rcases hk with hk | hk <;> rw [hk] <;> rfl
    rw [Token.signs_cons, Mode.tilt_append, hsign, ih hs, Int.zero_add]
  | @take st rest sts hshape h ih =>
    rw [Token.signs_append, Mode.tilt_append, hshape.tilt hs.1, ih hs.2]
    omega

end Statement
end StyleScope
