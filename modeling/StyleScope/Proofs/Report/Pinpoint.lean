import StyleScope.Proofs.Sheet.Places
import StyleScope.Proofs.Text.Lines
import StyleScope.Report.Diagnostic

/-!
Where diagnostics point to.

A fault of a source is found before its end, so both ends of the fault have positions, and no
diagnostic falls back to the first character. The positions lead back to the fault. A fault begins
at a character that ends no line, so the line of that character is there to be shown, and the mark
stands under the character.
-/

namespace StyleScope.Diagnostic

variable {source : Text} {e : ParseError}

/-- What the diagnostic of a fault shows: `p` and `q` are the positions of its ends, and `line` is
the source line that it begins on, which starts at `start`. -/
structure Pinpoints (file : Path) (source : Text) (e : ParseError) (p q : LineCol) (start : Nat)
    (line : Text) : Prop where
  /-- The fault is found before the end of the source, and cuts no character. -/
  within : e.span.start < source.size ∧ e.span.start ≤ e.span.stop ∧
    e.span.stop ≤ source.size ∧ Text.isBoundary e.span.start source = true ∧
    Text.isBoundary e.span.stop source = true
  positions : (LineIndex.ofText source).lineCol? e.span.start = some p ∧
    (LineIndex.ofText source).lineCol? e.span.stop = some q
  back : (LineIndex.ofText source).offset? p = some e.span.start ∧
    (LineIndex.ofText source).offset? q = some e.span.stop
  machine : format .machine source (ofParseErrors file source [e]) =
    "ERROR ".toList ++ file ++
      ':' :: Text.ofNat (p.line + 1) ++ ':' :: Text.ofNat (p.col + 1) ++
      ':' :: Text.ofNat (q.line + 1) ++ ':' :: Text.ofNat (q.col + 1) ++
      ' ' :: e.fault.message ++ " (".toList ++ e.fault.code ++ ")\n".toList
  json : toJson (ofParseError file (LineIndex.ofText source) e) = JsonText.object 1
    [("type", JsonText.string "Error".toList), ("filename", JsonText.string file),
      ("start", JsonText.object 2 [("line", JsonText.number (p.line + 1)),
        ("column", JsonText.number (p.col + 1)), ("offset", JsonText.number e.span.start)]),
      ("end", JsonText.object 2 [("line", JsonText.number (q.line + 1)),
        ("column", JsonText.number (q.col + 1)), ("offset", JsonText.number e.span.stop)]),
      ("message", JsonText.string e.fault.message), ("code", JsonText.string e.fault.code)]
  shown : source.LineAt e.span.start start line
  /-- The mark is preceded by as many spaces as there are bytes before the fault on its line. -/
  verbose : format .humanVerbose source (ofParseErrors file source [e]) =
    file ++ ':' :: Text.ofNat (p.line + 1) ++ ':' :: Text.ofNat (p.col + 1) ++
      "\nError: ".toList ++ e.fault.message ++ " (".toList ++ e.fault.code ++ ")\n".toList ++
      "  ".toList ++ Text.ofNat (p.line + 1) ++ " | ".toList ++ line ++
      "\n  ".toList ++ List.replicate (Text.ofNat (p.line + 1)).length ' ' ++ " | ".toList ++
      List.replicate (e.span.start - start) ' ' ++ "^\n\n".toList

lemma ofOffset_of_lineCol? {index : LineIndex} {offset : Nat} {p : LineCol}
    (h : index.lineCol? offset = some p) :
    Position.ofOffset index offset = ⟨p.line + 1, p.col + 1, offset⟩ := by
  rw [Position.ofOffset, h]
  rfl

section Written

variable {file : Path} {p q : LineCol}
  (hp : (LineIndex.ofText source).lineCol? e.span.start = some p)

lemma place_mk (line column offset : Nat) :
    place ⟨line, column, offset⟩ = ':' :: Text.ofNat line ++ ':' :: Text.ofNat column := rfl

include hp in
lemma format_machine (hq : (LineIndex.ofText source).lineCol? e.span.stop = some q) :
    format .machine source (ofParseErrors file source [e]) =
      "ERROR ".toList ++ file ++
        ':' :: Text.ofNat (p.line + 1) ++ ':' :: Text.ofNat (p.col + 1) ++
        ':' :: Text.ofNat (q.line + 1) ++ ':' :: Text.ofNat (q.col + 1) ++
        ' ' :: e.fault.message ++ " (".toList ++ e.fault.code ++ ")\n".toList := by
  have hend : ")\n".toList = [')'] ++ "\n".toList := by decide
  calc format .machine source (ofParseErrors file source [e])
      = "ERROR ".toList ++ file ++ (place (.ofOffset (.ofText source) e.span.start) ++
          place (.ofOffset (.ofText source) e.span.stop)) ++
          ' ' :: (e.fault.message ++ " (".toList ++ e.fault.code ++ [')']) ++ "\n".toList ++ [] :=
        rfl
    _ = _ := by
        rw [ofOffset_of_lineCol? hp, ofOffset_of_lineCol? hq, place_mk, place_mk, hend]
        simp only [List.append_assoc, List.cons_append, List.append_nil]

include hp in
lemma format_humanVerbose {line : Text} (hline : (Text.lines source)[p.line]? = some line) :
    format .humanVerbose source (ofParseErrors file source [e]) =
      file ++ ':' :: Text.ofNat (p.line + 1) ++ ':' :: Text.ofNat (p.col + 1) ++
        "\nError: ".toList ++ e.fault.message ++ " (".toList ++ e.fault.code ++ ")\n".toList ++
        "  ".toList ++ Text.ofNat (p.line + 1) ++ " | ".toList ++ line ++
        "\n  ".toList ++ List.replicate (Text.ofNat (p.line + 1)).length ' ' ++ " | ".toList ++
        List.replicate p.col ' ' ++ "^\n\n".toList := by
  have hend : ")\n".toList = [')'] ++ "\n".toList := by decide
  have hmark : "^\n\n".toList = "^\n".toList ++ "\n".toList := by decide
  have hsnippet : snippet (Text.lines source) ⟨p.line + 1, p.col + 1, e.span.start⟩ =
      "  ".toList ++ Text.ofNat (p.line + 1) ++ " | ".toList ++ line ++ "\n  ".toList ++
        List.replicate (Text.ofNat (p.line + 1)).length ' ' ++ " | ".toList ++
        List.replicate p.col ' ' ++ "^\n".toList := by
    unfold snippet
    rw [Nat.add_sub_cancel, hline]
    rfl
  calc format .humanVerbose source (ofParseErrors file source [e])
      = file ++ place (.ofOffset (.ofText source) e.span.start) ++ "\nError: ".toList ++
          (e.fault.message ++ " (".toList ++ e.fault.code ++ [')']) ++ "\n".toList ++
          snippet (Text.lines source) (.ofOffset (.ofText source) e.span.start) ++
          "\n".toList ++ [] := rfl
    _ = _ := by
        rw [ofOffset_of_lineCol? hp, place_mk, hsnippet, hend, hmark]
        simp only [List.append_assoc, List.cons_append, List.append_nil]

end Written

lemma lineCol?_size (before after : Text) :
    (LineIndex.ofText (before ++ after)).lineCol? before.size =
      some ⟨before.count '\n', before.size - Text.lineStart before.size (before ++ after)⟩ := by
  have hle : before.size ≤ (before ++ after).size := by simp
  have hpos := (LineIndex.lineCol?_ofText hle).2
  rwa [Text.cut_size_append] at hpos

lemma exists_pinpoints_of_stands (h : e.Stands source) (file : Path) :
    ∃ p q start line, Pinpoints file source e p q start line := by
  obtain ⟨before, inside, after, hsource, hspan, ⟨c, hc, hspace⟩, -⟩ := h
  obtain ⟨rest, hrest⟩ : ∃ rest, inside ++ after = c :: rest := by
    rcases hcons : inside ++ after with _ | ⟨d, rest⟩
    · simp [hcons] at hc
    · rw [hcons] at hc
      exact ⟨rest, by rw [Option.some.inj hc]⟩
  have hstart : e.span.start = before.size := by rw [hspan]; rfl
  have hfits : e.span.fits source = true := by
    rw [hsource, hspan]
    exact Span.fits_between before inside after
  have hstop := Span.stop_le_of_fits hfits
  simp only [Span.fits, Bool.and_eq_true, decide_eq_true_eq] at hfits
  -- a character stands where the fault begins, so this is not the end
  have hlt : e.span.start < source.size := by
    have hpos := Char.utf8Size_pos c
    rw [hstart, hsource, hrest, Text.size_append, Text.size_cons]
    omega
  obtain ⟨line, hline, hget⟩ := Text.exists_lineAt (c := c) (by rintro rfl; cases hspace)
    (by rintro rfl; cases hspace) before rest
  have hp := lineCol?_size before (inside ++ after)
  rw [← hsource, ← hstart] at hp
  obtain ⟨-, hq⟩ := LineIndex.lineCol?_ofText hstop.2
  rw [← hrest, ← hsource, ← hstart] at hline
  rw [← hrest, ← hsource] at hget
  refine ⟨_, _, _, line, ⟨hlt, hstop.1, hstop.2, hfits.1.2, hfits.2⟩, ⟨hp, hq⟩,
    ⟨LineIndex.offset?_of_lineCol? hp, LineIndex.offset?_of_lineCol? hq⟩, ?_, ?_, hline, ?_⟩
  · exact format_machine hp hq
  · rw [ofParseError, ofOffset_of_lineCol? hp, ofOffset_of_lineCol? hq]
    rfl
  · exact format_humanVerbose hp hget

/-- **Every diagnostic points to the fault that it is about.** What is written of the faults of a
source is written of one after the other, and of each fault both positions and the source line
are shown. -/
theorem exists_pinpoints (source : Text) (name : Option Text) (file : Path) :
    (∀ f, format f source (ofParseErrors file source (Sheet.parse source name).errors) =
      (Sheet.parse source name).errors.flatMap fun e =>
        format f source (ofParseErrors file source [e])) ∧
    listJson (ofParseErrors file source (Sheet.parse source name).errors) =
      JsonText.array 0 ((Sheet.parse source name).errors.map fun e =>
        toJson (ofParseError file (LineIndex.ofText source) e)) ∧
    ∀ e ∈ (Sheet.parse source name).errors,
      ∃ p q start line, Pinpoints file source e p q start line := by
  refine ⟨fun f => ?_, ?_, fun e he => ?_⟩
  · cases f <;> simp [format, ofParseErrors, List.flatMap_map]
  · rw [listJson, ofParseErrors, List.map_map]
    rfl
  · exact exists_pinpoints_of_stands (Sheet.stands_of_mem_errors he) file

end StyleScope.Diagnostic
