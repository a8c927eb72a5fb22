import RowSql.Definition
import RowSql.Proofs.Schema.Names
import RowSql.Proofs.Text.Joined

/-!
# Statements of a definition

Every catalog can be defined. What rendering could refuse is a double quote in a name, and no
name of a schema has one, so each statement is a plain text. Main statement: the definition
of a catalog is one block for each schema, in order of registration: its types, its table and
its indexes.
-/
namespace RowSql

theorem Except.mapM_eq_ok {α β ε : Type} {f : α → Except ε β} {g : α → β} {l : List α}
    (h : ∀ a ∈ l, f a = .ok (g a)) : l.mapM f = .ok (l.map g) := by
  induction l with
  | nil => rfl
  | cons a l ih =>
    have hhead := h a (by simp)
    have htail := ih fun b hb => h b (by simp [hb])
    rw [List.mapM_cons, hhead, htail]
    rfl

namespace Fragment

/-- A name between double quotes. -/
def inQuotes (name : String) : String := doubleQuote ++ name ++ doubleQuote

theorem quoteName_eq_ok {name : String} (h : Over (· ≠ '"') name) :
    quoteName name = .ok (inQuotes name) := by
  unfold quoteName
  rw [if_neg fun hc => h _ hc rfl]
  rfl

theorem inQuotes_ne_empty (name : String) : inQuotes name ≠ "" := by
  intro h
  have hlist := congrArg String.toList h
  simp [inQuotes, doubleQuote] at hlist

theorem parenthesized_ne_empty (tokens : List String) : parenthesized tokens ≠ "" := by
  intro h
  have hlist := congrArg String.toList h
  simp [parenthesized] at hlist

end Fragment

open Fragment (inQuotes)

namespace IndexShape

variable (shape : IndexShape) (table : String)

/-- The clauses of an index, absent ones as empty texts. -/
def clauses : List String :=
  ["CREATE", if shape.unique then "UNIQUE" else "", "INDEX", "ON " ++ inQuotes table,
    if shape.method.getD "" = "" then "" else "USING " ++ shape.method.getD "",
    Fragment.parenthesized shape.fields,
    if shape.predicate.getD "" = "" then "" else "WHERE " ++ shape.predicate.getD ""]

def statement : String := " ".intercalate ((shape.clauses table).filter (· ≠ ""))

theorem render_eq_ok (h : Over (· ≠ '"') table) :
    shape.render table = .ok (shape.statement table) := by
  apply Fragment.join_of_rendered
  simp only [Fragment.Rendered, fragments, List.map_cons, List.map_nil, Fragment.render,
    Fragment.quoteName_eq_ok h, bind, Except.bind, pure, Except.pure,
    if_neg (Fragment.inQuotes_ne_empty table)]
  rfl

end IndexShape

namespace Index

def statement (table : String) : Index → String
  | written sql => sql
  | on shape => shape.statement table

end Index

namespace Schema

variable (s : Schema)

theorem wordChars_enumName {c : Column} (h : c ∈ s.columns) :
    Over Name.IsWordChar (s.enumName c) :=
  Over.append_iff.2 ⟨Over.append_iff.2 ⟨s.table_plain.over, by decide⟩,
    (s.wellFormed.columns_plain c h).over⟩

theorem over_enumName {c : Column} (h : c ∈ s.columns) : Over (· ≠ '"') (s.enumName c) := by
  refine (s.wordChars_enumName h).mono ?_
  rintro x hx rfl
  exact absurd hx (by decide)

theorem enumTypeName_eq_ok {c : Column} (h : c ∈ s.columns) :
    s.enumTypeName c = .ok (inQuotes (s.enumName c)) :=
  Fragment.quoteName_eq_ok (s.over_enumName h)

def typeText (c : Column) : String :=
  match c.type with
  | .scalar of => of.sqlName
  | .array of => of.sqlName ++ "[]"
  | .written sql => sql
  | .enum _ => inQuotes (s.enumName c)

def columnText (c : Column) : String := c.name ++ " " ++ s.typeText c

def tableStatement : String :=
  "CREATE TABLE " ++ inQuotes s.table ++ " (" ++
    ", ".intercalate (s.columns.map s.columnText ++ s.keyClause) ++ ")"

def typeStatement (e : Column × List String) : String :=
  "CREATE TYPE " ++ inQuotes (s.enumName e.1) ++ " AS ENUM " ++
    Fragment.parenthesized (e.2.map labelLiteral)

/-- The statements of one schema. -/
def block : List String :=
  s.enums.map s.typeStatement ++ s.tableStatement :: s.indexes.map (Index.statement s.table)

theorem columnType_eq_ok {c : Column} (h : c ∈ s.columns) :
    s.columnType c = .ok (s.typeText c) := by
  unfold columnType typeText
  cases c.type with
  | enum labels => exact s.enumTypeName_eq_ok h
  | _ => rfl

theorem columnClause_eq_ok {c : Column} (h : c ∈ s.columns) :
    s.columnClause c = .ok (s.columnText c) := by
  rw [columnClause, s.columnType_eq_ok h]
  rfl

theorem createTable_eq_ok : s.createTable = .ok s.tableStatement := by
  rw [createTable, Except.mapM_eq_ok fun c hc => s.columnClause_eq_ok hc,
    Fragment.quoteName_eq_ok (s.table_plain.over_ne (by decide))]
  rfl

theorem mem_columns_of_mem_enums {e : Column × List String} (h : e ∈ s.enums) :
    e.1 ∈ s.columns := by
  obtain ⟨c, hc, he⟩ := List.mem_filterMap.1 h
  obtain ⟨labels, -, rfl⟩ := Option.map_eq_some_iff.1 he
  exact hc

theorem createType_eq_ok {e : Column × List String} (h : e ∈ s.enums) :
    s.createType e.1 e.2 = .ok (s.typeStatement e) := by
  have hrender : Fragment.Rendered [.text "CREATE TYPE", .text (inQuotes (s.enumName e.1)),
      .text "AS ENUM", .parens (e.2.map labelLiteral)] ["CREATE TYPE",
      inQuotes (s.enumName e.1), "AS ENUM", Fragment.parenthesized (e.2.map labelLiteral)] := rfl
  rw [createType, s.enumTypeName_eq_ok (s.mem_columns_of_mem_enums h)]
  simp only [bind, Except.bind]
  rw [Fragment.join_of_rendered hrender, Except.ok.injEq, Fragment.spaced]
  apply String.toList_injective
  simp [Fragment.inQuotes_ne_empty, Fragment.parenthesized_ne_empty, typeStatement]

theorem createTypes_eq_ok : s.createTypes = .ok (s.enums.map s.typeStatement) :=
  Except.mapM_eq_ok fun _ he => s.createType_eq_ok he

theorem createIndexes_eq_ok :
    s.createIndexes = .ok (s.indexes.map (Index.statement s.table)) := by
  apply Except.mapM_eq_ok
  intro index hindex
  cases index with
  | written sql => rfl
  | on shape => exact shape.render_eq_ok s.table (s.table_plain.over_ne (by decide))

theorem definition_eq_ok : s.definition = .ok s.block := by
  rw [definition, s.createTable_eq_ok, s.createTypes_eq_ok, s.createIndexes_eq_ok]
  rfl

end Schema

namespace Catalog

variable (c : Catalog)

/-- All statements of a catalog in order. -/
def statements : List String := c.entries.flatMap fun d => d.schema.block

theorem definition_eq_ok :
    c.definition = .ok (c.statements, .defined c.size c.statements.length) := by
  rw [definition, Except.mapM_eq_ok fun d _ => d.schema.definition_eq_ok]
  rfl

end Catalog
end RowSql
