import Mathlib.Tactic.Common
import StyleScope.Span

/-!
Cutting texts at byte offsets.

An offset is a character boundary of a text exactly when the text divides there into two
texts, and a span fits a text exactly when the text divides into what is before the span,
under it and after it. Both are stated with the parts given, so that a slice is read off a
decomposition and no byte is counted twice.
-/

namespace StyleScope

namespace Text

lemma isBoundary_size_append (a b : Text) : isBoundary (size a) (a ++ b) = true := by
  simp [isBoundary]

lemma isBoundary_iff {n : Nat} {t : Text} :
    isBoundary n t = true ↔ ∃ a b, t = a ++ b ∧ size a = n := by
  constructor
  · intro h
    exact ⟨(cut n t).1, (cut n t).2, (cut_append n t).symm, by simpa [isBoundary] using h⟩
  · rintro ⟨a, b, rfl, rfl⟩
    exact isBoundary_size_append a b

end Text

namespace Span

/-- The span of the middle part of a text in three parts. -/
def between (before inside : Text) : Span := ⟨before.size, before.size + inside.size⟩

@[simp] lemma between_start (a b : Text) : (between a b).start = a.size := rfl
@[simp] lemma between_stop (a b : Text) : (between a b).stop = a.size + b.size := rfl

lemma slice_between (a b c : Text) : (between a b).slice (a ++ (b ++ c)) = b := by
  unfold slice length between
  rw [Nat.add_sub_cancel_left, Text.cut_size_append, Text.cut_size_append]

lemma fits_between (a b c : Text) : (between a b).fits (a ++ (b ++ c)) = true := by
  have hstart := Text.isBoundary_size_append a (b ++ c)
  have hstop := Text.isBoundary_size_append (a ++ b) c
  rw [Text.size_append, List.append_assoc] at hstop
  simp [fits, hstart, hstop]

lemma slice?_between (a b c : Text) : (between a b).slice? (a ++ (b ++ c)) = some b := by
  unfold slice?
  rw [if_pos (fits_between a b c), slice_between]

lemma fits_iff {s : Span} {t : Text} :
    s.fits t = true ↔ ∃ a b c, t = a ++ (b ++ c) ∧ s = between a b := by
  constructor
  · intro h
    simp only [fits, Bool.and_eq_true, decide_eq_true_eq] at h
    obtain ⟨⟨hle, hstart⟩, hstop⟩ := h
    obtain ⟨a, r, rfl, ha⟩ := Text.isBoundary_iff.mp hstart
    obtain ⟨p, c, hpc, hp⟩ := Text.isBoundary_iff.mp hstop
    cases s
    -- the longer of two prefixes of one text begins with the shorter
    rcases List.append_eq_append_iff.mp hpc with ⟨b, rfl, rfl⟩ | ⟨b, rfl, rfl⟩
    · refine ⟨a, b, c, rfl, ?_⟩
      simp only [Text.size_append] at hp ha
      simp only [between, Span.mk.injEq]
      omega
    · simp only [Text.size_append] at hp ha hle
      have hb : b = [] := Text.size_eq_zero.mp (by omega)
      subst hb
      refine ⟨p, [], r, by simp, ?_⟩
      simp only [between, Span.mk.injEq, Text.size_nil]
      simp only [Text.size_nil] at ha
      omega
  · rintro ⟨a, b, c, rfl, rfl⟩
    exact fits_between a b c

lemma stop_le_of_fits {s : Span} {t : Text} (h : s.fits t = true) :
    s.start ≤ s.stop ∧ s.stop ≤ t.size := by
  obtain ⟨a, b, c, rfl, rfl⟩ := fits_iff.mp h
  simp

end Span
end StyleScope
