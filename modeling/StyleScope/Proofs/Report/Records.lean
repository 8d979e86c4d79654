import Mathlib.Algebra.GroupWithZero.Nat
import StyleScope.Proofs.Sheet.Places
import StyleScope.Proofs.Text.Lines
import StyleScope.Report.Diagnostic

/-!
Diagnostics written one on each line.

A diagnostic is written with a line end behind it, and its place, its code and all that is fixed
in its message have none of their own. A message may repeat a part of the source, and then has the
line ends of that part. So the lines can be read back as the diagnostics exactly when no message
repeats a part that goes over a line end.
-/

namespace StyleScope

namespace ParseFault

/-- Whether the message repeats the part of the source that the fault is found at. -/
def quotes : ParseFault → Bool
  | unclosedBlock _ | unknownWord _ => true
  | _ => false

lemma count_message {inside : Text} {f : ParseFault} (h : f.Describes inside) :
    f.message.count '\n' = if f.quotes then inside.count '\n' else 0 := by
  have hfixed {a b : Text} (ha : a.count '\n' = 0) : (a ++ b).count '\n' = b.count '\n' := by
    rw [List.count_append, ha, Nat.zero_add]
  cases f with
  | unclosedBlock openedBy =>
    obtain rfl : openedBy = inside := h
    exact hfixed (by decide)
  | unknownWord word =>
    obtain rfl : word = inside := h
    exact hfixed (by decide)
  | unclosedBracket closer =>
    refine (hfixed (by decide)).trans ?_
    rcases h with ⟨-, rfl⟩ | ⟨-, rfl⟩ <;> rfl
  | _ => rfl

lemma newline_notMem_code (f : ParseFault) : '\n' ∉ f.code := by
  cases f <;> exact List.count_eq_zero.mp (by rfl)

end ParseFault

lemma Text.newline_notMem_ofNat (n : Nat) : '\n' ∉ ofNat n := fun h => by
  cases Nat.isDigit_of_mem_toDigits (by decide) (by decide) h

namespace Diagnostic

/-- A diagnostic as it stands on its line. -/
def record (d : Diagnostic) : Text := d.machine.dropLast

lemma exists_record (d : Diagnostic) : ∃ place, '\n' ∉ place ∧
    d.machine = d.record ++ ['\n'] ∧ d.record = "ERROR ".toList ++ d.file ++ place ++
      ' ' :: (d.message ++ " (".toList ++ d.code ++ [')']) := by
  have hplace (p : Position) : '\n' ∉ place p := by
    simp [place, Text.newline_notMem_ofNat]
  have hrecord {place : Text} (h : d.machine = "ERROR ".toList ++ d.file ++ place ++
      ' ' :: (d.message ++ " (".toList ++ d.code ++ [')']) ++ ['\n']) :
      d.machine = d.record ++ ['\n'] ∧ d.record = "ERROR ".toList ++ d.file ++ place ++
        ' ' :: (d.message ++ " (".toList ++ d.code ++ [')']) := by
    rw [record, h, List.dropLast_concat]
    exact ⟨rfl, rfl⟩
  obtain ⟨file, _ | ⟨start, stop⟩, message, code⟩ := d
  · exact ⟨[], by simp, hrecord rfl⟩
  · exact ⟨place start ++ place stop, by simp [hplace], hrecord rfl⟩

lemma machine_eq_record (d : Diagnostic) : d.machine = d.record ++ ['\n'] := by
  obtain ⟨-, -, h, -⟩ := exists_record d
  exact h

lemma getLast?_record (d : Diagnostic) : d.record.getLast? = some ')' := by
  obtain ⟨place, -, -, h⟩ := exists_record d
  rw [h, List.getLast?_append_of_ne_nil _ (List.cons_ne_nil _ _), ← List.cons_append,
    List.getLast?_concat]

lemma count_record {d : Diagnostic} (hfile : '\n' ∉ d.file) (hcode : '\n' ∉ d.code) :
    d.record.count '\n' = d.message.count '\n' := by
  obtain ⟨place, hplace, -, h⟩ := exists_record d
  rw [h]
  simp [List.count_eq_zero.mpr hfile, List.count_eq_zero.mpr hcode, List.count_eq_zero.mpr hplace]

lemma format_machine_eq (source : Text) (ds : List Diagnostic) :
    format .machine source ds = (ds.map record).flatMap (· ++ ['\n']) := by
  rw [List.flatMap_map]
  exact List.flatMap_congr fun d _ => machine_eq_record d

lemma count_format_machine (source : Text) (ds : List Diagnostic) :
    (format .machine source ds).count '\n' =
      ds.length + (ds.map fun d => d.record.count '\n').sum := by
  rw [format_machine_eq]
  induction ds with
  | nil => rfl
  | cons d ds ih =>
    rw [List.map_cons, List.flatMap_cons, List.count_append, List.count_append, ih, List.map_cons,
      List.sum_cons, List.length_cons, List.count_singleton_self]
    omega

lemma lines_format_machine_iff (source : Text) (ds : List Diagnostic) :
    Text.lines (format .machine source ds) = ds.map record ↔
      (format .machine source ds).count '\n' = ds.length := by
  constructor
  · intro h
    have hends : (format .machine source ds).EndsLine := by
      rw [format_machine_eq]
      intro c hc
      rcases List.eq_nil_or_concat ds with rfl | ⟨ds, d, rfl⟩
      · simp at hc
      · simpa [List.concat_eq_append] using hc.symm
    rw [← Text.length_lines hends, h, List.length_map]
  · intro h
    rw [count_format_machine, Nat.add_eq_left, List.sum_eq_zero_iff_forall_eq_nat] at h
    rw [format_machine_eq]
    refine Text.lines_flatMap (fun t ht => ?_) (fun t ht => ?_)
    · obtain ⟨d, hd, rfl⟩ := List.mem_map.mp ht
      exact List.count_eq_zero.mp (h _ (List.mem_map_of_mem hd))
    · obtain ⟨d, -, rfl⟩ := List.mem_map.mp ht
      simp [getLast?_record]

lemma count_record_ofParseError {file : Path} (hfile : '\n' ∉ file) {source : Text}
    {e : ParseError} (h : e.Stands source) :
    (ofParseError file (LineIndex.ofText source) e).record.count '\n' =
      if e.fault.quotes then (e.span.slice source).count '\n' else 0 := by
  obtain ⟨before, inside, after, rfl, hspan, -, hd⟩ := h
  rw [count_record hfile (ParseFault.newline_notMem_code e.fault), hspan, Span.slice_between]
  exact ParseFault.count_message hd

/-- **When diagnostics are one on each line.** The diagnostics of a source have as many line ends
as there are faults, and can be read back line by line, exactly when no fault whose message repeats
a part of the source is found over a line end. Otherwise there is one more for each line end in
such a part. -/
theorem lines_machine_iff (source : Text) (name : Option Text) (file : Path)
    (hfile : '\n' ∉ file) :
    let es := (Sheet.parse source name).errors
    let ds := ofParseErrors file source es
    let out := format .machine source ds
    let whole := ∀ e ∈ es, e.fault.quotes = true → '\n' ∉ e.span.slice source
    (∀ d ∈ ds, d.machine = d.record ++ ['\n']) ∧
    out.count '\n' = es.length +
      (es.map fun e => if e.fault.quotes then (e.span.slice source).count '\n' else 0).sum ∧
    (out.count '\n' = es.length ↔ whole) ∧ (Text.lines out = ds.map record ↔ whole) := by
  intro es ds out whole
  have hlength : ds.length = es.length := List.length_map _
  have hcount : out.count '\n' = es.length +
      (es.map fun e => if e.fault.quotes then (e.span.slice source).count '\n' else 0).sum := by
    have hmap : ds.map (fun d => d.record.count '\n') =
        es.map fun e => if e.fault.quotes then (e.span.slice source).count '\n' else 0 := by
      refine List.map_map.trans (List.map_congr_left fun e he => ?_)
      exact count_record_ofParseError hfile (Sheet.stands_of_mem_errors he)
    rw [count_format_machine, hmap, hlength]
  have hwhole : out.count '\n' = es.length ↔ whole := by
    rw [hcount, Nat.add_eq_left, List.sum_eq_zero_iff_forall_eq_nat, List.forall_mem_map]
    refine forall₂_congr fun e _ => ?_
    cases e.fault.quotes <;> simp [List.count_eq_zero]
  refine ⟨fun d _ => machine_eq_record d, hcount, hwhole, ?_⟩
  rw [lines_format_machine_iff, hlength]
  exact hwhole

/-- Two faults of a sheet of several lines, each of which is on one line. -/
theorem lines_machine_of_words :
    let source := ".a \x7b\n  b\n\x7d\n\x7d".toList
    let ds := ofParseErrors "a.css".toList source (Sheet.parse source none).errors
    ds.length = 2 ∧ Text.lines (format .machine source ds) = ds.map record :=
  ⟨by decide +kernel, (lines_machine_iff _ none "a.css".toList (by decide)).2.2.2.mpr
    (by decide +kernel)⟩

/-- A heading that is written on two lines is repeated on two lines. -/
theorem lines_machine_ne_of_heading :
    let source := ".a,\n.b \x7b".toList
    let ds := ofParseErrors "a.css".toList source (Sheet.parse source none).errors
    (format .machine source ds).count '\n' ≠ (Sheet.parse source none).errors.length ∧
      Text.lines (format .machine source ds) ≠ ds.map record := by
  decide +kernel

end Diagnostic
end StyleScope
