import Lineage.Url.Foreign

/-! Base URLs of servers, and the URLs of what a server holds. A base is a directory. -/

namespace Lineage.Url

/-- A slash is appended to a path that does not end in one. -/
def asDirectory (path : List (List Char)) : List (List Char) :=
  if path.getLast? == some [] then path else path ++ [[]]

def parse (cs : List Char) : Except UrlFault Url :=
  match cutScheme? (cleaned cs) with
  | none => .error .relative
  | some (scheme, rest) =>
    if scheme == Scheme.http.text then readHierarchy .http rest
    else if scheme == Scheme.https.text then readHierarchy .https rest
    else .error ((foreignFault? scheme rest).getD (.scheme (String.ofList scheme)))

/-- The base URL that a text names, blanks at its ends aside. -/
def server (raw : String) : Except UrlFault Url :=
  (parse (Text.trimmed raw.toList)).map fun u => { u with path := asDirectory u.path }

/-- One literal segment more. Plain dots are skipped; tabs and line ends are dropped, and dots that
only show then have their meaning. -/
def appendSegment (path : List (List Char)) (segment : List Char) : List (List Char) :=
  if segment == ['.'] || segment == ['.', '.'] then path
  else
    let kept := segment.filter fun c => !(c == '\t' || c == '\n' || c == '\r')
    let front := if path == [[]] then [] else path
    addLast front (Percent.encode Percent.inSegment kept)

/-- Below a base. Its last segment gives way if it is empty. -/
def below (base : Url) (segments : List (List Char)) : Url :=
  let path := if base.path.getLast? == some [] && 1 < base.path.length then base.path.dropLast else base.path
  { base with path := segments.foldl appendSegment path }

/-- Where a server lists its refs. -/
def refs (base : Url) : Url := base.below [['r', 'e', 'f'], []]

/-- Where a server keeps the object of a hash. -/
def object (base : Url) (hash : String) : Url := base.below [['o', 'b', 'j'], hash.toList]

end Lineage.Url
