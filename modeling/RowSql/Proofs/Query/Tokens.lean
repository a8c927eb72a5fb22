import RowSql.Proofs.Query.Slots

/-!
# Tokens of a query

The text of a query, taken apart into fixed words, names, verbatim text, numbers and bound
values. Fixed words come from one short vocabulary, and each name carries the part that it
plays. Main statement: a query renders as its tokens do, one after the other.
-/
namespace RowSql

/-- The part that a name plays in a statement. -/
inductive Part where
  | table
  /-- A column to insert into. -/
  | column
  /-- A field of the key that tables are joined on. -/
  | key
  | projection
  | returning
  | assignment
  | condition
  deriving DecidableEq, Repr

inductive Token where
  | fixed (text : String)
  | name (part : Part) (text : String)
  | verbatim (text : String)
  | number (n : Nat)
  | bound (v : Value)

namespace Token

def piece : Token → Piece
  | fixed text => .text text
  | name _ text => .text text
  | verbatim text => .text text
  | number n => .text (String.ofList (Nat.toDigits 10 n))
  | bound v => .bind v

/-- The words and signs that the library itself puts into a statement. -/
def vocabulary : List String :=
  ["insert into ", " default values", " (", ") values (", ")", " returning ", "select ", " from ",
    " where ", " and ", "=", ",", " order by ", " limit ", " for update", "update ", " set ", ".*",
    " join ", " using ("]

/-- Names of one part with commas between them. -/
def listed (part : Part) (names : List String) : List Token :=
  (names.map (name part)).intersperse (fixed ",")

def assignments (part : Part) (separator : String) : Bindings → List Token
  | [] => []
  | [(k, v)] => [name part k, fixed "=", bound v]
  | (k, v) :: rest =>
    name part k :: fixed "=" :: bound v :: fixed separator :: assignments part separator rest

def conditions : Bindings → List Token
  | [] => []
  | b => fixed " where " :: assignments .condition " and " b

/-- What the tokens make up as a template. -/
def template (tokens : List Token) : Template := tokens.map piece

end Token

namespace Insert

def slotToken : Entry → Token
  | .bound v => .bound v
  | .written sql => .verbatim sql

def valuesTokens (entries : List (String × Entry)) : List Token :=
  if entries = [] then [.fixed " default values"]
  else
    .fixed " (" :: (Token.listed .column (entries.map Prod.fst) ++ .fixed ") values (" ::
      ((entries.map fun e => slotToken e.2).intersperse (.fixed ",") ++ [.fixed ")"]))

def returningTokens (columns : List String) : List Token :=
  if columns = [] then [] else .fixed " returning " :: Token.listed .returning columns

def tokens (q : Insert) : List Token :=
  .fixed "insert into " :: .name .table q.row.schema.table ::
    (valuesTokens q.entries ++ returningTokens q.returning)

end Insert

namespace Select

variable (q : Select)

def orderTokens : List Token :=
  match q.order with
  | some order => [.fixed " order by ", .verbatim order]
  | none => []

def limitTokens : List Token :=
  match q.limit with
  | some limit => [.fixed " limit ", .number limit]
  | none => []

def lockTokens : List Token := if q.forUpdate then [.fixed " for update"] else []

def tokens : List Token :=
  .fixed "select " :: (Token.listed .projection q.fields ++ .fixed " from " ::
    .name .table q.schema.table :: (Token.conditions q.conditions ++
      (q.orderTokens ++ q.limitTokens ++ q.lockTokens)))

end Select

namespace Update

def tokens (q : Update) : List Token :=
  .fixed "update " :: .name .table q.schema.table :: .fixed " set " ::
    (Token.assignments .assignment "," q.assignments ++ Token.conditions q.conditions)

end Update

namespace Join

def starTokens : List Schema → List Token
  | [] => []
  | [s] => [.name .table s.table, .fixed ".*"]
  | s :: rest => .name .table s.table :: .fixed ".*" :: .fixed "," :: starTokens rest

def joinTokens (key : List String) (s : Schema) : List Token :=
  .fixed " join " :: .name .table s.table :: .fixed " using (" ::
    (Token.listed .key key ++ [.fixed ")"])

def tableTokens : List Schema → List Token
  | [] => []
  | first :: rest => .name .table first.table :: rest.flatMap (joinTokens first.key)

def tokens (q : Join) : List Token :=
  .fixed "select " :: (starTokens q.schemas ++ .fixed " from " ::
    (tableTokens q.schemas ++ Token.conditions q.conditions))

end Join

namespace Query

def tokens : Query → List Token
  | insert q => q.tokens
  | select q => q.tokens
  | update q => q.tokens
  | join q => q.tokens

end Query

/-! ## Rendering -/

namespace Template

/-- Two templates that bound values cut alike, whatever text comes first. -/
structure Alike (t u : Template) : Prop where
  parameters : t.parameters = u.parameters
  chunks : ∀ lead, chunksFrom lead t = chunksFrom lead u

namespace Alike

variable {t t' u u' : Template}

theorem refl (t : Template) : Alike t t := ⟨rfl, fun _ => rfl⟩

theorem append (ht : Alike t t') (hu : Alike u u') : Alike (t ++ u) (t' ++ u') := by
  constructor
  · rw [parameters_append, parameters_append, ht.parameters, hu.parameters]
  · intro lead
    rw [chunksFrom_append, chunksFrom_append, ht.chunks, hu.chunks]

theorem cons (p : Piece) (h : Alike t u) : Alike (p :: t) (p :: u) := append (refl [p]) h

theorem text (s : String) : Alike [.text s] [.text s] := refl _

theorem empty : Alike [] [.text ""] := ⟨rfl, fun lead => by simp [chunksFrom]⟩

/-- Text after text is one text. -/
theorem joined {a b : String} (ht : Alike t [.text a]) (hu : Alike u [.text b]) :
    Alike (t ++ u) [.text (a ++ b)] := by
  constructor
  · rw [parameters_append, ht.parameters, hu.parameters]
    rfl
  · intro lead
    rw [chunksFrom_append, ht.chunks]
    simp [chunksFrom, hu.chunks, String.append_assoc]

theorem render (h : Alike t u) (m : Marker) : t.render m = u.render m := by
  rw [render_eq_weave, render_eq_weave, Template.chunks, Template.chunks, h.chunks, h.parameters]

end Alike
end Template

open Template (Alike)

namespace Token

@[simp] theorem template_nil : template [] = [] := rfl

@[simp] theorem template_cons (t : Token) (ts : List Token) :
    template (t :: ts) = t.piece :: template ts := rfl

@[simp] theorem template_append (ts us : List Token) :
    template (ts ++ us) = template ts ++ template us := List.map_append

/-- A list of names is one text, with commas between the names. -/
theorem alike_listed (part : Part) (names : List String) :
    Alike (template (listed part names)) [.text (",".intercalate names)] := by
  unfold listed
  induction names with
  | nil => exact Alike.empty
  | cons s names ih =>
    cases names with
    | nil =>
      rw [String.intercalate_singleton]
      exact Alike.text s
    | cons s' names =>
      rw [String.intercalate_cons_cons]
      exact ((Alike.text s).joined (Alike.text ",")).joined ih

theorem alike_assignments (part : Part) (separator : String) (b : Bindings) :
    Alike (template (assignments part separator b)) (Template.assignments separator b) := by
  induction b with
  | nil => exact Alike.refl []
  | cons p b ih =>
    have hname : Alike [.text p.1, .text "="] [.text (p.1 ++ "=")] :=
      (Alike.text p.1).joined (Alike.text "=")
    cases b with
    | nil => exact hname.append (Alike.refl [.bind p.2])
    | cons q b => exact hname.append ((ih.cons (.text separator)).cons (.bind p.2))

theorem alike_conditions (b : Bindings) :
    Alike (template (conditions b)) (Template.conditions b) := by
  cases b with
  | nil => exact Alike.refl []
  | cons p b => exact (alike_assignments .condition " and " (p :: b)).cons _

end Token

namespace Insert

theorem template_slotTokens (es : List (String × Entry)) :
    Token.template ((es.map fun e => slotToken e.2).intersperse (.fixed ",")) =
      (es.map fun e => entryPiece e.2).intersperse (.text ",") := by
  induction es with
  | nil => rfl
  | cons e es ih =>
    obtain ⟨c, entry⟩ := e
    cases es with
    | nil => cases entry <;> rfl
    | cons e' es => cases entry <;> simpa [slotToken, entryPiece, Token.piece] using ih

theorem alike_valuesTokens (es : List (String × Entry)) :
    Alike (Token.template (valuesTokens es)) (valuesPieces es) := by
  unfold valuesTokens valuesPieces
  split
  · exact Alike.refl _
  · have hlead := ((Alike.text " (").joined (Token.alike_listed .column (es.map Prod.fst))).joined
      (Alike.text ") values (")
    have hall := hlead.append (Alike.refl
      ((es.map fun e => entryPiece e.2).intersperse (.text ",") ++ [.text ")"]))
    simpa [template_slotTokens, Token.piece] using hall

theorem alike_returningTokens (columns : List String) :
    Alike (Token.template (returningTokens columns)) (returningPieces columns) := by
  unfold returningTokens returningPieces
  split
  · exact Alike.refl []
  · exact (Alike.text " returning ").joined (Token.alike_listed .returning columns)

theorem alike_tokens (q : Insert) : Alike (Token.template q.tokens) q.pieces := by
  have hlead := (Alike.text "insert into ").joined (Alike.text q.row.schema.table)
  have hrest := (alike_valuesTokens q.entries).append (alike_returningTokens q.returning)
  simpa [tokens, pieces, Token.piece] using hlead.append hrest

end Insert

namespace Select

variable (q : Select)

theorem alike_orderTokens : Alike (Token.template q.orderTokens) [.text q.orderText] := by
  unfold orderTokens orderText
  cases q.order with
  | none => exact Alike.empty
  | some order => exact (Alike.text " order by ").joined (Alike.text order)

theorem alike_limitTokens : Alike (Token.template q.limitTokens) [.text q.limitText] := by
  unfold limitTokens limitText
  cases q.limit with
  | none => exact Alike.empty
  | some limit => exact (Alike.text " limit ").joined (Alike.text _)

theorem alike_lockTokens : Alike (Token.template q.lockTokens) [.text q.lockText] := by
  unfold lockTokens lockText
  split
  · exact Alike.text " for update"
  · exact Alike.empty

theorem alike_tokens : Alike (Token.template q.tokens) q.pieces := by
  have hlead := (((Alike.text "select ").joined (Token.alike_listed .projection q.fields)).joined
    (Alike.text " from ")).joined (Alike.text q.schema.table)
  have htail := (q.alike_orderTokens.joined q.alike_limitTokens).joined q.alike_lockTokens
  have hrest := (Token.alike_conditions q.conditions).append htail
  simpa [tokens, pieces, Token.piece] using hlead.append hrest

end Select

namespace Update

theorem alike_tokens (q : Update) : Alike (Token.template q.tokens) q.pieces := by
  have hlead := ((Alike.text "update ").joined (Alike.text q.schema.table)).joined
    (Alike.text " set ")
  have hrest := (Token.alike_assignments .assignment "," q.assignments).append
    (Token.alike_conditions q.conditions)
  simpa [tokens, pieces, Token.piece] using hlead.append hrest

end Update

namespace Join

theorem alike_starTokens (schemas : List Schema) :
    Alike (Token.template (starTokens schemas))
      [.text (",".intercalate (schemas.map fun s => s.table ++ ".*"))] := by
  induction schemas with
  | nil => exact Alike.empty
  | cons s rest ih =>
    have hstar := (Alike.text s.table).joined (Alike.text ".*")
    cases rest with
    | nil => simpa [starTokens, Token.piece] using hstar
    | cons s' rest =>
      rw [List.map_cons, List.map_cons, String.intercalate_cons_cons]
      exact (hstar.joined (Alike.text ",")).joined ih

theorem alike_joinTokens (key : List String) (s : Schema) :
    Alike (Token.template (joinTokens key s))
      [.text (" join " ++ s.table ++ " using (" ++ ",".intercalate key ++ ")")] := by
  have h := ((((Alike.text " join ").joined (Alike.text s.table)).joined
    (Alike.text " using (")).joined (Token.alike_listed .key key)).joined (Alike.text ")")
  simpa [joinTokens, Token.piece] using h

theorem alike_tableTokens (schemas : List Schema) :
    Alike (Token.template (tableTokens schemas)) [.text (tables schemas)] := by
  cases schemas with
  | nil => exact Alike.empty
  | cons first rest =>
    have hjoins : Alike (Token.template (rest.flatMap (joinTokens first.key)))
        [.text (String.join (rest.map fun s =>
          " join " ++ s.table ++ " using (" ++ ",".intercalate first.key ++ ")"))] := by
      induction rest with
      | nil => exact Alike.empty
      | cons s rest ih =>
        rw [List.flatMap_cons, Token.template_append, List.map_cons, String.join_cons]
        exact (alike_joinTokens first.key s).joined ih
    exact (Alike.text first.table).joined hjoins

theorem alike_tokens (q : Join) : Alike (Token.template q.tokens) q.pieces := by
  have hlead := (((Alike.text "select ").joined (alike_starTokens q.schemas)).joined
    (Alike.text " from ")).joined (alike_tableTokens q.schemas)
  simpa [tokens, pieces, stars, Token.piece] using
    hlead.append (Token.alike_conditions q.conditions)

end Join

namespace Query

theorem alike_tokens (q : Query) : Alike (Token.template q.tokens) q.pieces := by
  cases q with
  | insert q => exact q.alike_tokens
  | select q => exact q.alike_tokens
  | update q => exact q.alike_tokens
  | join q => exact q.alike_tokens

/-- A query renders as its tokens do. -/
theorem render_tokens (q : Query) (m : Marker) :
    Template.render m (Token.template q.tokens) = q.pieces.render m := q.alike_tokens.render m

end Query
end RowSql
