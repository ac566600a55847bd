import ServiceStability.Yaml.Mark
/-!
# Yaml.Tag — the names of tags

A tag is written in full between angle brackets, or as a handle and the rest of its name.  A handle stands for the
beginning of a name.  Octets of a name may be escaped: a percent sign and two hexadecimal digits.

- `TagName`: the names.
- `Handles`: what the handles of a document stand for.
- `tagBehind`: the tag behind an exclamation mark.
-/
namespace ServiceStability
namespace Yaml

/-- **The name of a tag**, character by character.  Where escaped octets make up no character, there is none. -/
abbrev TagName := List (Option Char)

namespace TagName

def ofText (text : Text) : TagName := text.map some

def text? (name : TagName) : Option Text := name.mapM id

def ended (name : TagName) : TagName := name.takeWhile (· != some '\x00')

def ofLanguage (name : String) : TagName := ofText ("tag:yaml.org,2002:".toList ++ name.toList)

end TagName

/-! ## Escaped octets -/

def octet? : List Mark → Option (Nat × List Mark)
  | sign :: high :: low :: rest => do
    let high ← hexValue? high.char
    let low ← hexValue? low.char
    if sign.char == '%' then some (high * 16 + low, rest) else none
  | _ => none

/-- **How many octets a character has**, given the first one, and the bits of it that count. -/
def octetCount? (first : Nat) : Option (Nat × Nat) :=
  if first < 0x80 then some (1, first)
  else if 0xc0 ≤ first ∧ first < 0xe0 then some (2, first - 0xc0)
  else if 0xe0 ≤ first ∧ first < 0xf0 then some (3, first - 0xe0)
  else if 0xf0 ≤ first ∧ first < 0xf8 then some (4, first - 0xf0)
  else none

/-- The code point that some more octets complete, each of them with six bits. -/
def completed? (point : Nat) : Nat → List Mark → Option (Nat × List Mark)
  | 0, here => some (point, here)
  | octets + 1, here => do
    let (octet, rest) ← octet? here
    if octet / 64 = 2 then completed? (point * 64 + octet % 64) octets rest else none

/-- The least code point that needs so many octets. -/
def leastPoint (octets : Nat) : Nat := [0, 0, 0x80, 0x800, 0x10000].getD octets 0

/-- **One escaped character**, and what is left.  Octets in the right order can still make up no character: because of
fewer octets that would do, or because the code point is none of a character. -/
def escaped? (here : List Mark) : Option (Option Char × List Mark) := do
  let (first, rest) ← octet? here
  let (octets, bits) ← octetCount? first
  let (point, rest) ← completed? bits (octets - 1) rest
  some (if leastPoint octets ≤ point then charOf? point else none, rest)

/-! ## Names -/

/-- Whether a character can be part of a name; brackets and commas only where nothing else ends it. -/
def isTagChar (isEnclosed : Bool) (c : Char) : Bool :=
  isNameChar c || ";/?:@&=+$.!~*'()%".toList.contains c || (isEnclosed && [',', '[', ']'].contains c)

/-- The characters of a name from a place on, and what is left; each takes one unit of the first number. -/
def tagChars (isEnclosed : Bool) : Nat → List Mark → Option (TagName × List Mark)
  | 0, _ => none
  | _ + 1, [] => some ([], [])
  | chars + 1, m :: rest =>
    if !isTagChar isEnclosed m.char then some ([], m :: rest)
    else do
      let (c, rest) ← if m.char == '%' then escaped? (m :: rest) else some (some m.char, rest)
      let (name, rest) ← tagChars isEnclosed chars rest
      some (c :: name, rest)

/-- **A name**, which may be empty, and what is left. -/
def tagName (isEnclosed : Bool) (here : List Mark) : Option (TagName × List Mark) :=
  (tagChars isEnclosed (here.length + 1) here).map fun (name, rest) => (name.ended, rest)

def someTagName (isEnclosed : Bool) (here : List Mark) : Option (TagName × List Mark) :=
  if here.head?.any fun m => isTagChar isEnclosed m.char then tagName isEnclosed here else none

/-! ## Handles -/

/-- **What the handles of a document stand for**, the handles with their exclamation marks. -/
abbrev Handles := List (Text × TagName)

def Handles.standard : Handles := [(['!'], [some '!']), (['!', '!'], TagName.ofLanguage "")]

/-- **A tag as it is written**: a handle and the rest of the name; the name is complete where the handle is empty. -/
structure Tag where
  handle : Text
  name : TagName
deriving DecidableEq

/-- The full name of a tag, unless its handle is unknown. -/
def Tag.fullName (handles : Handles) (tag : Tag) : Option TagName :=
  if tag.handle.isEmpty then some tag.name else (handles.lookup tag.handle).map (· ++ tag.name)

/-- **The tag behind an exclamation mark**, and what is left.  The mark alone is a name of its own. -/
def tagBehind (inFlow : Bool) (here : List Mark) : Option (Tag × List Mark) := do
  let word := here.takeWhile fun m => isNameChar m.char
  let behind := here.drop word.length
  let (tag, rest) ←
    if Mark.startsWith '<' here then do
      let (name, rest) ← someTagName true here.tail
      if Mark.startsWith '>' rest then some (⟨[], name⟩, rest.tail) else none
    else if Mark.startsWith '!' behind then do
      let (name, rest) ← someTagName false behind.tail
      some (⟨'!' :: (Mark.chars word ++ ['!']), name⟩, rest)
    else do
      let (name, rest) ← tagName false here
      some (if name.isEmpty then ⟨[], [some '!']⟩ else ⟨['!'], name⟩, rest)
  if Mark.endsWord rest || (inFlow && Mark.startsWith ',' rest) then some (tag, rest) else none

/-- A second exclamation mark ends a handle, if only a name stands in front of it. -/
example : (tagBehind false (Mark.ofText "a!b".toList)).map (·.1) = some ⟨"!a!".toList, TagName.ofText "b".toList⟩
    ∧ (tagBehind false (Mark.ofText "a.b!c".toList)).map (·.1) = some ⟨"!".toList, TagName.ofText "a.b!c".toList⟩ := by
  decide +kernel

/-- Two octets can be one character, or none. -/
example : ((tagBehind false (Mark.ofText "%C3%A9".toList)).map (·.1.name)) = some [some 'é']
    ∧ ((tagBehind false (Mark.ofText "%C0%80".toList)).map (·.1.name)) = some [none] := by
  decide +kernel

end Yaml
end ServiceStability
