import ProfileBrowser.Profile.Diagrams
import ProfileBrowser.Text.Blank
import ProfileBrowser.Text.Case
import ProfileBrowser.Text.Search
/-!
# Filtering by name

A filter text narrows the rows of the table and marks the frames of the flame graph. Both compare
lower-case forms and look for the trimmed filter text anywhere in a name.
-/

namespace ProfileBrowser.Filter

/-- Whether a name contains a keyword, both in lower case. -/
def nameContains (name keyword : String) : Bool :=
  Text.occursIn (Text.lower keyword.toList) (Text.lower name.toList)

/-- Whether a name contains one of the keywords. -/
def matchesAny (name : String) (keywords : List String) : Bool :=
  keywords.any (nameContains name)

/-- The keywords of a filter text: the trimmed text, or none if nothing is left of it. -/
def keywords (filter : String) : List String :=
  let keyword := Text.trim filter
  if keyword.isEmpty then [] else [keyword]

/-- Whether a filter text lets a name through; a blank one lets everything through. -/
def admits (filter name : String) : Bool :=
  let keyword := Text.lower (Text.trimChars filter.toList)
  keyword.isEmpty || Text.occursIn keyword (Text.lower name.toList)

/-- The rows that a filter text lets through, in their order. -/
def visible (filter : String) (rows : List TableRow) : List TableRow :=
  rows.filter fun r => admits filter r.name

end ProfileBrowser.Filter
