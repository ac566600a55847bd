import ServiceStability.Yaml.Mark
/-!
# Yaml.Quoted — scalars in quotes

In single quotes only the quote itself is doubled; in double quotes a backslash escapes the character behind it, or the
end of its line.  Line breaks between words are folded in both.

- `Yaml.quoted`: the scalar behind an opening quote.
-/
namespace ServiceStability
namespace Yaml

/-- **Part of a quoted scalar**: its text, whether an escaped line break ends it, and what is left. -/
structure QuotedWord where
  text : Text
  escapesBreak : Bool
  rest : List Mark

def QuotedWord.push (c : Char) (w : QuotedWord) : QuotedWord := { w with text := c :: w.text }

/-- Characters in single quotes up to a gap or a quote that is not doubled. -/
def singleWord : List Mark → QuotedWord
  | [] => ⟨[], false, []⟩
  | m :: rest =>
    if m.isGap then ⟨[], false, m :: rest⟩
    else if m.char == '\'' then
      match rest with
      | next :: after => if next.char == '\'' then (singleWord after).push '\'' else ⟨[], false, m :: rest⟩
      | [] => ⟨[], false, m :: rest⟩
    else (singleWord rest).push m.char

def escapeOf? (c : Char) : Option Char :=
  [('0', '\x00'), ('a', '\x07'), ('b', '\x08'), ('t', '\t'), ('\t', '\t'), ('n', '\n'), ('v', '\x0b'), ('f', '\x0c'),
   ('r', '\r'), ('e', '\x1b'), (' ', ' '), ('"', '"'), ('/', '/'), ('\\', '\\'), ('N', '\x85'), ('_', '\u00a0'),
   ('L', '\u2028'), ('P', '\u2029')].lookup c

/-- How many hexadecimal digits follow a letter behind a backslash. -/
def escapeDigits? (c : Char) : Option Nat := [('x', 2), ('u', 4), ('U', 8)].lookup c

/-- A code point whose digits are being read: how many are left, and the number so far. -/
abbrev CodePoint := Nat × Nat

/-- **Characters in double quotes** up to a gap, a quote or an escaped line break. -/
def doubleWord : Option CodePoint → List Mark → Option QuotedWord
  | none, [] => some ⟨[], false, []⟩
  | some _, [] => none
  | some (left, number), m :: rest => do
    let digit ← hexValue? m.char
    let number := number * 16 + digit
    if left ≤ 1 then (← doubleWord none rest).push (← charOf? number) else doubleWord (some (left - 1, number)) rest
  | none, m :: rest =>
    if m.isGap || m.char == '"' then some ⟨[], false, m :: rest⟩
    else if m.char == '\\' then
      match rest with
      | [] => none
      | next :: after =>
        if next.isBreak then some ⟨[], true, after⟩
        else
          match escapeOf? next.char with
          | some c => (doubleWord none after).map (.push c)
          | none =>
            match escapeDigits? next.char with
            | some digits => doubleWord (some (digits, 0)) after
            | none => none
    else (doubleWord none rest).map (.push m.char)

/-- What the gap behind a word stands for; nothing is left of a line break that was escaped. -/
def QuotedWord.gapText (w : QuotedWord) (gap : List Mark) : Text :=
  if w.escapesBreak then Mark.breaksOf gap else Mark.foldedGap gap

/-- The words from a place on; each takes one unit of the first number. -/
def quotedFrom (quote : Char) (word : List Mark → Option QuotedWord) : Nat → List Mark → Option (Text × List Mark)
  | 0, _ => none
  | words + 1, here =>
    if Mark.isDocumentMarker here then none
    else
      match word here with
      | none => none
      | some w =>
        if Mark.startsWith quote w.rest then some (w.text, w.rest.tail)
        else if w.rest.isEmpty then none
        else
          (quotedFrom quote word words (w.rest.dropWhile Mark.isGap)).map fun (text, rest) =>
            (w.text ++ w.gapText (w.rest.takeWhile Mark.isGap) ++ text, rest)

/-- **The scalar behind an opening quote**, and what is left behind the closing one. -/
def quoted (double : Bool) (here : List Mark) : Option (Text × List Mark) :=
  if double then quotedFrom '"' (doubleWord none) (here.length + 1) here
  else quotedFrom '\'' (fun marks => some (singleWord marks)) (here.length + 1) here

/-- A doubled quote is one quote, and a line break is a space. -/
example : (quoted false (Mark.ofText "it''s\n  me' x".toList)).map (·.1) = some "it's me".toList := by
  decide +kernel

/-- An escape may name a code point. -/
example : (quoted true (Mark.ofText "a\\x41\\n\"".toList)).map (·.1) = some "aA\n".toList := by
  decide +kernel

end Yaml
end ServiceStability
