import StyleScope.Text.Basic

/-!
JSON values are read where a certain kind of value is expected, from left to right, and the first
fault ends the reading. A value of another kind is still looked at before it is refused: if it is
not well formed, that is the fault.
-/

namespace StyleScope

/-- What is wrong with a JSON text. -/
inductive JsonFault where
  /-- It is no JSON. -/
  | malformed
  /-- It does not have the form expected. -/
  | mismatched
  /-- It ends too early. -/
  | unfinished
  deriving DecidableEq, Repr

/-- Reads a value from the front of a text, and gives the rest. -/
abbrev JsonReader (α : Type) := Text → Except JsonFault (α × Text)

namespace JsonReader

/-- Changes the value that is read. -/
def map {α β : Type} (f : α → β) (read : JsonReader α) : JsonReader β := fun t => do
  let (a, t) ← read t
  return (f a, t)

/-- The white space of JSON. -/
def isSpace (c : Char) : Bool := c == ' ' || c == '\n' || c == '\t' || c == '\r'

def skipSpace (t : Text) : Text := t.dropWhile isSpace

/-- Takes a word off a text. -/
def word : Text → JsonReader Unit
  | [], t => .ok ((), t)
  | _ :: _, [] => .error .unfinished
  | e :: es, c :: t => if c = e then word es t else .error .malformed

/-! ### Strings -/

/-- The value of a hexadecimal digit. -/
def hexDigit? (c : Char) : Option Nat :=
  if c.isDigit then some (c.toNat - '0'.toNat)
  else if 'a' ≤ c ∧ c ≤ 'f' then some (c.toNat - 'a'.toNat + 10)
  else if 'A' ≤ c ∧ c ≤ 'F' then some (c.toNat - 'A'.toNat + 10)
  else none

/-- The number of four hexadecimal digits at the front of a text. Fewer than four bytes are too few,
whatever they are. -/
def hexUnit (t : Text) : Except JsonFault Nat :=
  match (t.take 4).mapM hexDigit? with
  | some [a, b, c, d] => .ok (((a * 16 + b) * 16 + c) * 16 + d)
  | _ => .error (if Text.size t < 4 then .unfinished else .malformed)

/-- The second half of a character that is written in two halves. -/
def lowSurrogate : Text → Except JsonFault Nat
  | [] | ['\\'] => .error .unfinished
  | '\\' :: 'u' :: t => do
    let n ← hexUnit t
    if 0xDC00 ≤ n ∧ n ≤ 0xDFFF then .ok n else .error .malformed
  | _ => .error .malformed

/-- The character that hexadecimal digits stand for, and how many characters they take. -/
def hexEscape (t : Text) : Except JsonFault (Char × Nat) := do
  let n ← hexUnit t
  if 0xD800 ≤ n ∧ n ≤ 0xDBFF then
    let m ← lowSurrogate (t.drop 4)
    return (Char.ofNat ((n - 0xD800) * 0x400 + (m - 0xDC00) + 0x10000), 10)
  else if 0xDC00 ≤ n ∧ n ≤ 0xDFFF then .error .malformed
  else return (Char.ofNat n, 4)

/-- What a text after a backslash stands for, and how many characters of it belong to that. -/
def escape : Text → Except JsonFault (Char × Nat)
  | [] => .error .unfinished
  | 'u' :: t => do
    let (c, n) ← hexEscape t
    return (c, n + 1)
  | c :: _ =>
    match c with
    | '"' => .ok ('"', 1)
    | '\\' => .ok ('\\', 1)
    | '/' => .ok ('/', 1)
    | 'b' => .ok ('\x08', 1)
    | 'f' => .ok ('\x0c', 1)
    | 'n' => .ok ('\n', 1)
    | 'r' => .ok ('\r', 1)
    | 't' => .ok ('\t', 1)
    | _ => .error .malformed

/-- The rest of a string after its opening quote. -/
def stringBody (t : Text) : Except JsonFault (Text × Text) :=
  match t with
  | [] => .error .unfinished
  | c :: t =>
    if c = '"' then .ok ([], t)
    else if c = '\\' then do
      let (e, n) ← escape t
      let (s, rest) ← stringBody (t.drop n)
      return (e :: s, rest)
    else if c.toNat < 0x20 then .error .malformed
    else do
      let (s, rest) ← stringBody t
      return (c :: s, rest)
termination_by t.length
decreasing_by all_goals grind

/-! ### Numbers -/

/-- The value of a decimal digit. -/
def digit (c : Char) : Nat := c.toNat - '0'.toNat

/-- The numbers below this one fit in 64 bits. -/
def significandLimit : Nat := 0x10000000000000000

/-- The digits of a whole number on top of a significand, which has 64 bits, and how many of the
digits have no room in it. -/
def wholeDigits : Nat → Text → Nat × Nat
  | n, [] => (n, 0)
  | n, d :: ds =>
    if n * 10 + digit d < significandLimit then wholeDigits (n * 10 + digit d) ds
    else (n, ds.length + 1)

/-- The digits of a fraction on top of a significand, and how many of them had room in it. -/
def fractionDigits : Nat → Text → Nat × Nat
  | n, [] => (n, 0)
  | n, d :: ds =>
    if n * 10 + digit d < significandLimit then
      let (n, used) := fractionDigits (n * 10 + digit d) ds
      (n, used + 1)
    else (n, 0)

/-- The nearest number with at most 53 significant bits, of two the even one. -/
def roundTo53 (n : Nat) : Nat :=
  let unit := Nat.pow 2 (n.log2 - 52)
  let floor := n / unit
  let up := unit < 2 * (n % unit) || (unit == 2 * (n % unit) && floor % 2 == 1)
  (if up then floor + 1 else floor) * unit

/-- The least number that is nearer to the next power of two than to the largest double. -/
def doubleLimit : Nat := Nat.pow 2 1024 - Nat.pow 2 970

/-- Whether a significand times a power of ten is too large for a double. -/
def isTooLarge (significand : Nat) (exponent : Int) : Bool :=
  significand != 0 && decide (0 ≤ exponent) &&
    (decide (308 < exponent) ||
      decide (doubleLimit ≤ roundTo53 significand * roundTo53 (Nat.pow 10 exponent.toNat)))

/-- The fault of a number that is written well, where no number is expected. -/
def numberValueFault (significand : Nat) (exponent : Int) : JsonFault :=
  if isTooLarge significand exponent then .malformed else .mismatched

/-- The fault of a number, from after its `e`. -/
def exponentFault (significand : Nat) (exponent : Int) (t : Text) : JsonFault :=
  let (negative, t) := match t with
    | '+' :: t => (false, t)
    | '-' :: t => (true, t)
    | t => (false, t)
  match t with
  | [] => .unfinished
  | c :: _ =>
    if c.isDigit then
      let e : Int := (t.takeWhile Char.isDigit).foldl (fun n d => n * 10 + digit d) 0
      numberValueFault significand (if negative then exponent - e else exponent + e)
    else .malformed

/-- The fault of a number, from after its whole part and fraction. -/
def scaleFault (significand : Nat) (exponent : Int) (t : Text) : JsonFault :=
  match t with
  | 'e' :: t | 'E' :: t => exponentFault significand exponent t
  | _ => numberValueFault significand exponent

/-- The fault of a number, from after its whole part. -/
def fractionFault (significand : Nat) (exponent : Nat) (t : Text) : JsonFault :=
  match t with
  | ['.'] => .unfinished
  | '.' :: c :: t =>
    if c.isDigit then
      let (significand, used) := fractionDigits significand ((c :: t).takeWhile Char.isDigit)
      scaleFault significand (exponent - used) ((c :: t).dropWhile Char.isDigit)
    else .malformed
  | t => scaleFault significand exponent t

/-- The fault of a number, from after its sign, where no number is expected. -/
def numberFault (t : Text) : JsonFault :=
  match t with
  | [] => .unfinished
  | '0' :: t =>
    if t.head?.any Char.isDigit then .malformed else fractionFault 0 0 t
  | c :: t =>
    if c.isDigit then
      let (significand, dropped) := wholeDigits 0 ((c :: t).takeWhile Char.isDigit)
      fractionFault significand dropped ((c :: t).dropWhile Char.isDigit)
    else .malformed

/-! ### Values -/

/-- The fault of what a reader gives, where another kind of value is expected. -/
def faultAfter {α : Type} : Except JsonFault α → JsonFault
  | .ok _ => .mismatched
  | .error f => f

/-- The fault of a value of a kind that is not expected. -/
def valueFault : Text → JsonFault
  | [] => .unfinished
  | 'n' :: t => faultAfter (word "ull".toList t)
  | 't' :: t => faultAfter (word "rue".toList t)
  | 'f' :: t => faultAfter (word "alse".toList t)
  | '"' :: t => faultAfter (stringBody t)
  | '[' :: _ | '{' :: _ => .mismatched
  | '-' :: t => numberFault t
  | c :: t => if c.isDigit then numberFault (c :: t) else .malformed

def string : JsonReader Text := fun t =>
  match skipSpace t with
  | '"' :: t => stringBody t
  | t => .error (valueFault t)

def boolean : JsonReader Bool := fun t =>
  match skipSpace t with
  | 't' :: t => (word "rue".toList).map (fun _ => true) t
  | 'f' :: t => (word "alse".toList).map (fun _ => false) t
  | t => .error (valueFault t)

/-- A value or `null`. -/
def optional {α : Type} (read : JsonReader α) : JsonReader (Option α) := fun t =>
  match skipSpace t with
  | 'n' :: t => (word "ull".toList).map (fun _ => none) t
  | t => read.map some t

/-! ### Arrays and objects -/

/-- What comes next in an array or object: an item, or its end. Both give the rest. -/
inductive Next where
  | item (t : Text)
  | stop (t : Text)
  deriving DecidableEq, Repr

/-- Finds the next element of an array, from before the comma that parts it from the one before it,
if there is one. -/
def nextElement (first : Bool) (t : Text) : Except JsonFault Next :=
  match skipSpace t, first with
  | [], _ => .error .unfinished
  | ']' :: t, _ => .ok (.stop t)
  | t, true => .ok (.item t)
  | ',' :: t, false =>
    match skipSpace t with
    | [] => .error .unfinished
    | ']' :: _ => .error .malformed
    | t => .ok (.item t)
  | _, false => .error .malformed

/-- Finds the name of the next member of an object, and goes past its opening quote. -/
def nextMember (first : Bool) (t : Text) : Except JsonFault Next :=
  match skipSpace t, first with
  | [], _ => .error .unfinished
  | '}' :: t, _ => .ok (.stop t)
  | '"' :: t, true => .ok (.item t)
  | ',' :: t, false =>
    match skipSpace t with
    | [] => .error .unfinished
    | '"' :: t => .ok (.item t)
    | _ => .error .malformed
  | _, _ => .error .malformed

/-- Goes past the end of an array. -/
def arrayEnd : JsonReader Unit := fun t =>
  match skipSpace t with
  | [] => .error .unfinished
  | ']' :: t => .ok ((), t)
  | _ => .error .malformed

/-- Goes past the colon between the name of a member and its value. -/
def colon : JsonReader Unit := fun t =>
  match skipSpace t with
  | [] => .error .unfinished
  | ':' :: t => .ok ((), t)
  | _ => .error .malformed

/-- The elements of an array of strings. Each takes at least its quotes, so the text gets
shorter. -/
def stringElements (first : Bool) (t : Text) : Except JsonFault (List Text × Text) :=
  match nextElement first t with
  | .error f => .error f
  | .ok (.stop rest) => .ok ([], rest)
  | .ok (.item element) => do
    let (s, rest) ← string element
    if rest.length < t.length then
      let (ss, rest) ← stringElements false rest
      return (s :: ss, rest)
    else .error .malformed
termination_by t.length

def stringArray : JsonReader (List Text) := fun t =>
  match skipSpace t with
  | '[' :: t => stringElements true t
  | t => .error (valueFault t)

/-- Goes past the white space at the end of a text. -/
def finish (t : Text) : Except JsonFault Unit :=
  if (skipSpace t).isEmpty then .ok () else .error .malformed

end JsonReader
end StyleScope
