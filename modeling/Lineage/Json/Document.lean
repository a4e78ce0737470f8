import Lineage.Json.Token

/-! JSON texts as trees: members stand in the order written, and repeated names are kept. -/

namespace Lineage.Json

/-- A text or a member's name is `none` when it is no text of Unicode characters. -/
inductive Document
  | null
  | bool (value : Bool)
  | number (literal : Numeral)
  | text (content : Option String)
  | array (items : List Document)
  | object (members : List (Option String × Document))
  deriving Repr

namespace Document

/-- The place of a value among those around it. What stands before it is held in reverse. -/
inductive Context
  | top
  | item (before : List Document) (outer : Context)
  | member (before : List (Option String × Document)) (name : Option String) (outer : Context)

/-- What a reader of tokens waits for. -/
inductive Reader
  | value (place : Context)
  | itemOrEnd (outer : Context)
  | afterItem (items : List Document) (outer : Context)
  | nameOrEnd (outer : Context)
  | nextName (members : List (Option String × Document)) (outer : Context)
  | colon (members : List (Option String × Document)) (name : Option String) (outer : Context)
  | afterMember (members : List (Option String × Document)) (outer : Context)
  | done (document : Document)

/-- A value is complete. -/
def Context.supply (d : Document) : Context → Reader
  | .top => .done d
  | .item before outer => .afterItem (d :: before) outer
  | .member before name outer => .afterMember ((name, d) :: before) outer

/-- The first token of a value. -/
def Context.start (place : Context) : Token → Option Reader
  | .null => some (place.supply .null)
  | .bool b => some (place.supply (.bool b))
  | .number n => some (place.supply (.number n))
  | .text s => some (place.supply (.text s))
  | .beginArray => some (.itemOrEnd place)
  | .beginObject => some (.nameOrEnd place)
  | _ => none

def Reader.step : Reader → Token → Option Reader
  | .value place, t => place.start t
  | .itemOrEnd outer, .endArray => some (outer.supply (.array []))
  | .itemOrEnd outer, t => (Context.item [] outer).start t
  | .afterItem items outer, .comma => some (.value (.item items outer))
  | .afterItem items outer, .endArray => some (outer.supply (.array items.reverse))
  | .nameOrEnd outer, .endObject => some (outer.supply (.object []))
  | .nameOrEnd outer, .text name => some (.colon [] name outer)
  | .nextName members outer, .text name => some (.colon members name outer)
  | .colon members name outer, .colon => some (.value (.member members name outer))
  | .afterMember members outer, .comma => some (.nextName members outer)
  | .afterMember members outer, .endObject => some (outer.supply (.object members.reverse))
  | _, _ => none

def ofTokens? (tokens : List Token) : Option Document :=
  match tokens.foldlM Reader.step (.value .top) with
  | some (.done d) => some d
  | _ => none

/-- One value with nothing but white space around it. -/
def parse? (text : String) : Option Document :=
  (Token.scan text.toList).bind ofTokens?

mutual

/-- The tokens that write a document. -/
def tokens : Document → List Token
  | .null => [.null]
  | .bool b => [.bool b]
  | .number n => [.number n]
  | .text s => [.text s]
  | .array items => .beginArray :: itemTokens items ++ [.endArray]
  | .object members => .beginObject :: memberTokens members ++ [.endObject]

def itemTokens : List Document → List Token
  | [] => []
  | [d] => d.tokens
  | d :: rest => d.tokens ++ .comma :: itemTokens rest

def memberTokens : List (Option String × Document) → List Token
  | [] => []
  | [(name, d)] => .text name :: .colon :: d.tokens
  | (name, d) :: rest => .text name :: .colon :: d.tokens ++ .comma :: memberTokens rest

end

mutual

/-- How many arrays and objects stand inside one another. -/
def depth : Document → Nat
  | .array items => itemsDepth items + 1
  | .object members => membersDepth members + 1
  | _ => 0

def itemsDepth : List Document → Nat
  | [] => 0
  | d :: rest => max d.depth (itemsDepth rest)

def membersDepth : List (Option String × Document) → Nat
  | [] => 0
  | (_, d) :: rest => max d.depth (membersDepth rest)

end

end Document

end Lineage.Json
