import ServiceStability.Text.Blank
/-!
# Name.Basic — hierarchical service names and their canonical form

A service is identified by a list of segments.  The canonical form joins the segments with dots; a segment that would
be ambiguous there (it is empty, or holds a dot, a quote, a backslash or white space) stands in double quotes, with a
backslash before each quote and backslash in it.

- `ServiceName.canonical`: the canonical form.
- `ServiceName.covers`: whether a name lies at or below another one, segment by segment.
- `ServiceName.cmp`: names are ordered as their canonical forms.
-/
namespace ServiceStability

/-- **A service name**: its segments, outermost first. -/
structure ServiceName where
  segments : List Text
deriving DecidableEq

namespace ServiceName

/-- A character that cannot stand in an unquoted segment of a canonical form. -/
def isSpecial (c : Char) : Bool := c == '.' || c == '"' || c == '\\' || Text.isBlank c

def needsQuotes (segment : Text) : Bool := segment.isEmpty || segment.any isSpecial

def escapeChar (c : Char) : Text := if c = '"' ∨ c = '\\' then ['\\', c] else [c]

def quote (segment : Text) : Text := '"' :: (segment.flatMap escapeChar ++ ['"'])

def segmentText (segment : Text) : Text := if needsQuotes segment then quote segment else segment

/-- **The canonical form of a list of segments.** -/
def canonicalText : List Text → Text
  | [] => []
  | [segment] => segmentText segment
  | segment :: rest => segmentText segment ++ '.' :: canonicalText rest

def canonical (name : ServiceName) : Text := canonicalText name.segments

/-- **Whether `other` lies at or below `name`**: `server.web` covers `server.web.connector` but not
`server.webservices`. -/
def covers (name other : ServiceName) : Bool := name.segments.isPrefixOf other.segments

/-- **The order of names**: that of their canonical forms, character by character. -/
def cmp (a b : ServiceName) : Ordering := if a = b then .eq else compare a.canonical b.canonical

def le (a b : ServiceName) : Bool := (a.cmp b).isLE

def listText (names : List ServiceName) : Text := Text.commaJoined (names.map canonical)

theorem covers_iff {name other : ServiceName} : name.covers other = true ↔ name.segments <+: other.segments := by
  simp [covers]

theorem cmp_self (a : ServiceName) : a.cmp a = .eq := by simp [cmp]

/-- The order is the comparison of the canonical forms, also for equal names. -/
theorem cmp_eq_compare (a b : ServiceName) : a.cmp b = compare a.canonical b.canonical := by
  unfold cmp
  split
  · rename_i h; subst h; exact (Std.ReflCmp.compare_self : compare a.canonical a.canonical = .eq).symm
  · rfl

theorem cmp_swap (a b : ServiceName) : (a.cmp b).swap = b.cmp a := by
  rw [cmp_eq_compare, cmp_eq_compare]
  exact (Std.OrientedCmp.eq_swap : compare b.canonical a.canonical = _).symm

theorem cmp_lt_trans {a b c : ServiceName} (hab : a.cmp b = .lt) (hbc : b.cmp c = .lt) : a.cmp c = .lt := by
  rw [cmp_eq_compare] at *
  exact Std.TransCmp.lt_trans hab hbc

/-- A dot, a blank or nothing at all asks for quotes. -/
example : canonical ⟨["deployment".toList, "app.war".toList, [], "a\"b".toList]⟩
    = "deployment.\"app.war\".\"\".\"a\\\"b\"".toList := by decide

end ServiceName
end ServiceStability
