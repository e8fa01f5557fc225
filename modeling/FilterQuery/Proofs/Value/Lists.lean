import FilterQuery.Json.Printer
import FilterQuery.Sql.Literal
import FilterQuery.Value.Json

/-!
# Lists as they are written

A list is shown in three ways: as plain text, as a literal and as a document. Each shows the members
one after the other, and each has its own marks around and between them (`ListStyle`). Hence a value
is shown as it is wherever it stands, however many lists there are around it (`Place.render_fill`).
-/

namespace FilterQuery

/-- How a list is written: what stands before its members, between two of them and behind them. -/
structure ListStyle where
  opening : String
  separator : String
  closing : String

namespace ListStyle

/-- A list whose members are written as `texts`. -/
def join (style : ListStyle) (texts : List String) : String :=
  style.opening ++ style.separator.intercalate texts ++ style.closing

/-- A list in a statement. -/
def sql : ListStyle := ⟨"(", ", ", ")"⟩

/-- A list in a document. -/
def json : ListStyle := ⟨"[", ",", "]"⟩

theorem toList_join (style : ListStyle) (texts : List String) :
    (style.join texts).toList = style.opening.toList ++
      style.separator.toList.intercalate (texts.map String.toList) ++ style.closing.toList := by
  rw [join, String.toList_append, String.toList_append, String.toList_intercalate]

end ListStyle

/-! ### Plain text -/

theorem Value.texts_eq_map (vs : List Value) : texts vs = vs.map text := by
  induction vs with
  | nil => rfl
  | cons v vs ih => rw [texts, ih, List.map_cons]

theorem Value.text_list (members : List Value) :
    text (.list members) = ListStyle.sql.join (members.map text) := by
  rw [text, texts_eq_map]
  rfl

/-! ### Literals -/

namespace Sql

theorem literalChars_append_moreLiterals (v : Value) (vs : List Value) :
    literalChars v ++ moreLiterals vs =
      [',', ' '].intercalate ((v :: vs).map literalChars) ++ [')'] := by
  induction vs generalizing v with
  | nil => rw [moreLiterals, List.map_singleton, List.intercalate_singleton]
  | cons w vs ih =>
    rw [moreLiterals, List.cons_append, List.cons_append, ih, List.map_cons, List.map_cons,
      List.map_cons, List.intercalate_cons_cons]
    simp

theorem literal_list (members : List Value) :
    literal (.list members) = ListStyle.sql.join (members.map literal) := by
  have hmap : (members.map literal).map String.toList = members.map literalChars := by
    simp [literal]
  apply String.toList_inj.1
  rw [ListStyle.toList_join, hmap, literal, String.toList_ofList]
  cases members with
  | nil => rfl
  | cons v vs =>
    rw [literalChars, List.cons_append, literalChars_append_moreLiterals]
    rfl

end Sql

/-! ### Documents -/

namespace Json

mutual

/-- What stands behind a document does not change how the document is written. -/
theorem lexemes_eq_append (rest : List Lexeme) (j : Json) :
    lexemes rest j = lexemes [] j ++ rest := by
  match j with
  | null | bool b | number text | string text | array [] | object [] => rfl
  | array (v :: vs) =>
    rw [lexemes, lexemes, lexemes_eq_append (moreItems rest vs),
      lexemes_eq_append (moreItems [] vs), moreItems_eq_append rest]
    simp
  | object ((k, v) :: ms) =>
    rw [lexemes, lexemes, lexemes_eq_append (moreMembers rest ms),
      lexemes_eq_append (moreMembers [] ms), moreMembers_eq_append rest]
    simp

theorem moreItems_eq_append (rest : List Lexeme) (vs : List Json) :
    moreItems rest vs = moreItems [] vs ++ rest := by
  match vs with
  | [] => rfl
  | v :: vs =>
    rw [moreItems, moreItems, lexemes_eq_append (moreItems rest vs),
      lexemes_eq_append (moreItems [] vs), moreItems_eq_append rest]
    simp

theorem moreMembers_eq_append (rest : List Lexeme) (ms : List (String × Json)) :
    moreMembers rest ms = moreMembers [] ms ++ rest := by
  match ms with
  | [] => rfl
  | (k, v) :: ms =>
    rw [moreMembers, moreMembers, lexemes_eq_append (moreMembers rest ms),
      lexemes_eq_append (moreMembers [] ms), moreMembers_eq_append rest]
    simp

end

theorem flatMap_chars_lexemes_moreItems (v : Json) (vs : List Json) :
    (lexemes (moreItems [] vs) v).flatMap Lexeme.chars =
      [','].intercalate ((v :: vs).map fun j => (lexemes [] j).flatMap Lexeme.chars) ++ [']'] := by
  induction vs generalizing v with
  | nil =>
    rw [moreItems, lexemes_eq_append, List.flatMap_append, List.map_singleton,
      List.intercalate_singleton]
    rfl
  | cons w vs ih =>
    rw [moreItems, lexemes_eq_append, List.flatMap_append, List.flatMap_cons, ih, List.map_cons,
      List.map_cons, List.map_cons, List.intercalate_cons_cons]
    simp [Lexeme.chars]

theorem compact_array (items : List Json) :
    (array items).compact = ListStyle.json.join (items.map compact) := by
  have hmap : (items.map compact).map String.toList =
      items.map fun j => (lexemes [] j).flatMap Lexeme.chars := by
    simp [compact]
  apply String.toList_inj.1
  rw [ListStyle.toList_join, hmap, compact, String.toList_ofList]
  cases items with
  | nil => rfl
  | cons v vs =>
    rw [lexemes, List.flatMap_cons, flatMap_chars_lexemes_moreItems]
    rfl

end Json

theorem Value.toJsons_eq_map (vs : List Value) : toJsons vs = vs.map toJson := by
  induction vs with
  | nil => rfl
  | cons v vs ih => rw [toJsons, ih, List.map_cons]

theorem Value.compact_toJson_list (members : List Value) :
    (toJson (.list members)).compact =
      ListStyle.json.join (members.map fun v => v.toJson.compact) := by
  rw [toJson, Json.compact_array, toJsons_eq_map, List.map_map]
  rfl

/-! ### Places inside lists -/

/-- A place inside lists, the innermost list first: the members before the place and those behind
it. -/
abbrev Place := List (List Value × List Value)

namespace Place

/-- The value that has `v` at the place. -/
def fill (v : Value) : Place → Value
  | [] => v
  | (before, behind) :: outer => fill (.list (before ++ v :: behind)) outer

/-- The lists around the place, with `text` at the place and all other members as `render` shows
them. -/
def shown (style : ListStyle) (render : Value → String) (text : String) : Place → String
  | [] => text
  | (before, behind) :: outer =>
    shown style render (style.join (before.map render ++ text :: behind.map render)) outer

/-- What shows lists member by member shows a value at its place. -/
theorem render_fill (style : ListStyle) (render : Value → String)
    (h : ∀ members, render (.list members) = style.join (members.map render)) (v : Value)
    (place : Place) : render (place.fill v) = place.shown style render (render v) := by
  induction place generalizing v with
  | nil => rfl
  | cons around outer ih => rw [fill, ih, h, List.map_append, List.map_cons, shown]

end Place

end FilterQuery
