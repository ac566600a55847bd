import ServiceStability.Yaml.Mark
/-!
# Yaml.Plain — scalars without quotes

A plain scalar consists of words.  It ends in front of a colon that a blank follows, in front of a comment or a marker
between documents, inside brackets also in front of an indicator, and in a block at a line that is not indented enough.

- `Yaml.plain`: the scalar at a place.
-/
namespace ServiceStability
namespace Yaml

/-- **What a reader finds**: a text, whether a new line begins behind it, and what is left. -/
structure PlainScalar where
  text : Text
  endsLine : Bool
  rest : List Mark

def PlainScalar.behind (text : Text) (s : PlainScalar) : PlainScalar := { s with text := text ++ s.text }

/-- **One word of a plain scalar**, and what is left.  Inside brackets a colon may not touch an indicator. -/
def plainWord (inFlow : Bool) : List Mark → Option (Text × List Mark)
  | [] => some ([], [])
  | m :: rest =>
    if m.isGap then some ([], m :: rest)
    else if inFlow && m.char == ':' && rest.head?.any (fun next => ('?' :: flowIndicators).contains next.char) then none
    else if (m.char == ':' && Mark.endsWord rest) || (inFlow && flowIndicators.contains m.char) then some ([], m :: rest)
    else (plainWord inFlow rest).map fun (word, left) => (m.char :: word, left)

/-- Whether a tab stands on a new line where there should be indentation. -/
def hasTabBefore (margin : Nat) (gap : List Mark) : Bool :=
  (gap.dropWhile fun m => !m.isBreak).any fun m => m.char == '\t' && decide (m.column < margin)

/-- The words from a place on, behind a gap; each word takes one unit of the first number. -/
def plainFrom (inFlow : Bool) (margin : Nat) : Nat → List Mark → List Mark → Option PlainScalar
  | 0, _, _ => none
  | words + 1, gap, here =>
    if Mark.isDocumentMarker here || Mark.startsWith '#' here then some ⟨[], gap.any Mark.isBreak, here⟩
    else
      match plainWord inFlow here with
      | none => none
      | some ([], _) => some ⟨[], gap.any Mark.isBreak, here⟩
      | some (word, rest) =>
        let text := Mark.foldedGap gap ++ word
        let next := rest.takeWhile Mark.isGap
        let behind := rest.dropWhile Mark.isGap
        if next.isEmpty then some ⟨text, false, rest⟩
        else if hasTabBefore margin next then none
        else if !inFlow && behind.head?.any (fun m => decide (m.column < margin)) then
          some ⟨text, next.any Mark.isBreak, behind⟩
        else (plainFrom inFlow margin words next behind).map (.behind text)

/-- **The plain scalar at a place**, in a block whose content stands at a margin. -/
def plain (inFlow : Bool) (margin : Nat) (here : List Mark) : Option PlainScalar :=
  plainFrom inFlow margin (here.length + 1) [] here

/-- The words of two lines are joined, and a comment is left. -/
example : (plain false 0 (Mark.ofText "a:b\n  c #d".toList)).map (·.text) = some "a:b c".toList := by decide

end Yaml
end ServiceStability
