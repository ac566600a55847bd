/-!
# Text — characters as a list

Every text of this library is a list of characters, so that a function on it recurses on the data and a lemma about it
is an induction.  `String` appears only at the edges: in literals, turned into a `Text` by `toList`, and where the
command line reads and prints.
-/
namespace ServiceStability

abbrev Text := List Char

namespace Text

/-- **The texts one after another, with `", "` between neighbours**: how every list of names is shown. -/
def commaJoined (texts : List Text) : Text := List.intercalate ", ".toList texts

def line (text : Text) : Text := text ++ ['\n']

def byteCount (text : Text) : Nat := text.foldl (fun bytes c => bytes + c.utf8Size) 0

/-- Lower case for the letters `A` to `Z`, every other character as it is. -/
def lowerAscii (text : Text) : Text := text.map Char.toLower

@[simp] theorem commaJoined_nil : commaJoined [] = [] := rfl

@[simp] theorem commaJoined_singleton (text : Text) : commaJoined [text] = text := by
  simp [commaJoined, List.intercalate]

end Text
end ServiceStability
