import StyleScope.Proofs.Token.Modes

/-!
Tokens in another place.

A run of tokens can be put in front of another text, and at another offset, when its last token
does not mind what follows it. The tokens of the joined text are then the same tokens, moved, and
those of what follows.
-/

namespace StyleScope

namespace Piece

variable {κ : Type} {ps qs : List (Piece κ)}

def bare (p : Piece κ) : Piece κ := { p with start := 0 }

/-- The pieces moved so that they lie side by side from an offset on. -/
def lay (offset : Nat) : List (Piece κ) → List (Piece κ)
  | [] => []
  | p :: ps => { p with start := offset } :: lay (offset + p.text.size) ps

@[simp] lemma map_bare_lay (offset : Nat) (ps : List (Piece κ)) :
    (lay offset ps).map bare = ps.map bare := by
  induction ps generalizing offset with
  | nil => rfl
  | cons p ps ih =>
    rw [lay, List.map_cons, ih]
    rfl

lemma adjacent_lay (offset : Nat) (ps : List (Piece κ)) : Adjacent offset (lay offset ps) := by
  induction ps generalizing offset with
  | nil => trivial
  | cons p ps ih => exact ⟨rfl, ih _⟩

@[simp] lemma textOf_bare (ps : List (Piece κ)) : textOf (ps.map bare) = textOf ps := by
  simp [textOf, List.flatMap_map, bare]

lemma textOf_congr (h : ps.map bare = qs.map bare) : textOf ps = textOf qs := by
  rw [← textOf_bare ps, h, textOf_bare]

@[simp] lemma textOf_lay (offset : Nat) (ps : List (Piece κ)) :
    textOf (lay offset ps) = textOf ps :=
  textOf_congr (map_bare_lay offset ps)

end Piece

namespace Token

namespace LexesTo

variable {as bs : List Token} {out out' : Text}

lemma congr_bare (h : LexesTo as out) (hb : as.map Piece.bare = bs.map Piece.bare) :
    LexesTo bs out := by
  induction as generalizing bs with
  | nil =>
    rw [List.map_nil, eq_comm, List.map_eq_nil_iff] at hb
    subst hb
    trivial
  | cons a as ih =>
    obtain ⟨b, bs, rfl, hab, hbs⟩ := List.map_eq_cons_iff.mp hb.symm
    obtain ⟨hkind, -, htext⟩ := Piece.mk.inj hab
    have hrest := Piece.textOf_congr hbs
    exact ⟨by rw [hkind, htext, hrest]; exact h.1, ih h.2 hbs.symm⟩

lemma congr_rest (h : LexesTo as out) (hr : out.head? = out'.head?) : LexesTo as out' := by
  induction as with
  | nil => trivial
  | cons a as ih =>
    refine ⟨h.1.congr_rest ?_, ih h.2⟩
    rcases Piece.textOf as with _ | ⟨c, cs⟩
    · exact hr
    · rfl

end LexesTo

/-- **The tokens of a text behind tokens are those tokens, moved, and its own.** -/
theorem tile_append {as : List Token} {out : Text} (h : LexesTo as out) (offset : Nat) :
    tile (fun _ => classify) offset (Piece.textOf as ++ out) =
      Piece.lay offset as ++
        tile (fun _ => classify) (offset + (Piece.textOf as).size) out := by
  have hlex : Lexes (Piece.lay offset as ++
      tile (fun _ => classify) (offset + (Piece.textOf as).size) out) := by
    refine lexes_append.mpr ⟨?_, lexes_tile _ _⟩
    rw [textOf_tile]
    exact h.congr_bare (Piece.map_bare_lay offset as).symm
  have hadj : Piece.Adjacent offset (Piece.lay offset as ++
      tile (fun _ => classify) (offset + (Piece.textOf as).size) out) := by
    refine Piece.adjacent_append.mpr ⟨Piece.adjacent_lay offset as, ?_⟩
    rw [Piece.textOf_lay]
    exact Piece.adjacent_tile _ _ _
  have htile := tile_textOf hadj hlex
  rwa [Piece.textOf_append, Piece.textOf_lay, textOf_tile] at htile

lemma lexesTo_scan (text : Text) : LexesTo (scan text) [] := by
  have h := @lexes_append (scan text) []
  rw [List.append_nil] at h
  exact (h.mp (scan_spec text).2.1).1

def lexemes (text : Text) : List Token := (scan text).map Piece.bare

@[simp] lemma lexemes_nil : lexemes [] = [] := by
  simp [lexemes, scan]

@[simp] lemma map_bare_lexemes (text : Text) : (lexemes text).map Piece.bare = lexemes text := by
  simp [lexemes, Piece.bare]

lemma map_bare_tile (offset : Nat) (text : Text) :
    (tile (fun _ => classify) offset text).map Piece.bare = lexemes text := by
  have htile := tile_append (lexesTo_scan text) offset
  rw [(scan_spec text).2.2, List.append_nil, tile_nil, List.append_nil] at htile
  rw [htile, Piece.map_bare_lay, lexemes]

lemma lexemes_append {as : List Token} {out : Text} (h : LexesTo as out) :
    lexemes (Piece.textOf as ++ out) = as.map Piece.bare ++ lexemes out := by
  have htile := congrArg (List.map Piece.bare) (tile_append h 0)
  rw [List.map_append, Piece.map_bare_lay, map_bare_tile, map_bare_tile] at htile
  exact htile

/-! ### Tokens that end by themselves -/

/-- A token that does not depend on what follows it. -/
def SelfEnding (t : Token) : Prop :=
  t.kind = .leftBrace ∨ t.kind = .rightBrace ∨ t.kind = .semicolon ∨
    t.kind = .comment ∧ isClosedComment t.text = true

lemma commentLength_of_closed {cs rest : Text} (h : commentLength (cs ++ rest) = cs.length)
    (hc : ['*', '/'] <:+ cs) (rest' : Text) : commentLength (cs ++ rest') = cs.length := by
  induction cs with
  | nil => simp at hc
  | cons c cs ih =>
    by_cases hend : c = '*' ∧ cs.head? = some '/'
    · obtain ⟨rfl, hslash⟩ := hend
      obtain ⟨cs, rfl⟩ := List.head?_eq_some_iff.mp hslash
      have hnil : cs = [] := by simpa [commentLength] using h
      subst hnil
      rfl
    · obtain ⟨hsuffix, hhead⟩ := Mode.suffix_of_cons hc hend
      have hlen (w : Text) := @Mode.commentLength_cons c (cs ++ w) (by rw [hhead]; exact hend)
      rw [List.cons_append, hlen] at h ⊢
      rw [ih (by simpa using h) hsuffix, List.length_cons]

lemma Spelled.of_selfEnding {t : Token} {rest : Text} (h : Spelled t.kind t.text rest)
    (ht : SelfEnding t) (rest' : Text) : Spelled t.kind t.text rest' := by
  obtain ⟨kind, start, text⟩ := t
  rcases ht with hk | hk | hk | ⟨hk, hc⟩
  · subst hk
    cases h
    exact .leftBrace
  · subst hk
    cases h
    exact .rightBrace
  · subst hk
    cases h
    exact .semicolon
  · subst hk
    cases h with
    | comment hb => exact .comment (commentLength_of_closed hb (isClosedComment_iff.mp hc) rest')

lemma LexesTo.of_selfEnding {as : List Token} {t : Token} {out : Text}
    (h : LexesTo (as ++ [t]) out) (ht : SelfEnding t) (out' : Text) : LexesTo (as ++ [t]) out' := by
  obtain ⟨has, hspell, -⟩ := lexesTo_append.mp h
  refine lexesTo_append.mpr ⟨has.congr_rest ?_, hspell.of_selfEnding ht _, trivial⟩
  obtain ⟨c, cs, hcs⟩ := List.exists_cons_of_ne_nil hspell.ne_nil
  simp [hcs]

end Token
end StyleScope
