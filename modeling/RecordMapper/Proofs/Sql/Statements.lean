import Mathlib.Data.List.Forall2
import RecordMapper.Proofs.Sql.Commands
import RecordMapper.Statement

namespace RecordMapper.Sql

open Token Statement

theorem spells_join {texts : List String} {tokens : List (List Token)}
    (h : List.Forall₂ (fun text ts => Spells text.toList ts) texts tokens) :
    Spells (" ".intercalate texts).toList tokens.flatten := by
  rw [String.toList_intercalate]
  induction h with
  | nil => exact spells_nil
  | @cons text ts texts tokens htext hrest ih =>
    cases hrest with
    | nil => simpa using htext
    | cons _ _ => simpa using htext.blank ih

theorem spells_commaList {texts : List String} {tokens : List (List Token)}
    (h : List.Forall₂ (fun text ts => Spells text.toList ts) texts tokens) :
    Spells (commaList texts).toList ([symbol ","].intercalate tokens) := by
  rw [commaList, String.toList_intercalate]
  induction h with
  | nil => exact spells_nil
  | @cons text ts texts tokens htext hrest ih =>
    cases hrest with
    | nil => simpa using htext
    | cons _ _ => simpa using htext.comma ih

theorem spells_nameList (names : List String) :
    Spells (nameList names).toList (namesTokens names) := by
  refine spells_commaList ?_
  rw [List.forall₂_map_left_iff, List.forall₂_map_right_iff]
  exact List.forall₂_same.2 fun n _ => spells_name n

theorem spells_row {texts : List String} {row : List Literal}
    (h : List.Forall₂ (fun text l => Spells text.toList l.tokens) texts row) :
    Spells ("(" ++ commaList texts ++ ")").toList (rowTokens row) := by
  have hlist := spells_commaList (List.forall₂_map_right_iff.2 h)
  simpa [rowTokens] using hlist.parenthesised

theorem spells_insert (table : String) (columns : List String) {texts : List (List String)}
    {rows : List (List Literal)} (returning : Option String)
    (h : List.Forall₂ (List.Forall₂ fun text l => Spells text.toList l.tokens) texts rows) :
    Spells (Statement.insert table columns texts returning).toList
      (insertTokens table columns rows returning ++ [symbol ";"]) := by
  have hinsert : Spells "INSERT INTO".toList [word "INSERT", word "INTO"] :=
    (spells_word (w := "INSERT") (by decide)).blank (spells_word (w := "INTO") (by decide))
  have hvalues : Spells "VALUES".toList [word "VALUES"] := spells_word (by decide)
  have hreturning : Spells "RETURNING".toList [word "RETURNING"] := spells_word (by decide)
  have hrows : Spells (commaList (texts.map fun row => "(" ++ commaList row ++ ")")).toList
      ([symbol ","].intercalate (rows.map rowTokens)) := by
    refine spells_commaList ?_
    rw [List.forall₂_map_left_iff, List.forall₂_map_right_iff]
    exact h.imp fun _ _ => spells_row
  have hhead := (((hinsert.blank (spells_name table)).blank
    (spells_nameList columns).parenthesised).blank hvalues).blank hrows
  unfold Statement.insert insertTokens
  generalize commaList (texts.map fun row => "(" ++ commaList row ++ ")") = written at hhead ⊢
  cases returning with
  | none => simpa [returningTokens] using hhead.semicolon
  | some column =>
    have hall := (hhead.blank (hreturning.blank (spells_name column))).semicolon
    simpa [returningTokens] using hall

theorem Spells.where {fragments : List String} {f : Filter}
    (h : Spells (" ".intercalate fragments).toList f.tokens) (hnil : fragments = [] ↔ f = [])
    {cs : List Char} {ts : List Token} (hcs : Spells cs ts) :
    Spells (cs ++ (whereClause fragments).toList) (ts ++ whereTokens f) := by
  unfold whereClause whereTokens
  by_cases hf : f = []
  · simpa [hf, hnil.2 hf] using hcs
  · rw [if_neg hf, if_neg (mt hnil.1 hf)]
    simpa using hcs.blank ((spells_word (w := "WHERE") (by decide)).blank h)

theorem spells_projection (columns : List String) :
    Spells (if columns = [] then "*" else nameList columns).toList (projectionTokens columns) := by
  unfold projectionTokens
  split
  · exact spells_mark (by decide)
  · exact spells_nameList columns

theorem spells_select (table : String) (columns : List String) {fragments : List String}
    {f : Filter} (h : Spells (" ".intercalate fragments).toList f.tokens)
    (hnil : fragments = [] ↔ f = []) (limit : Option Nat) :
    Spells (Statement.select table columns fragments limit).toList
      (selectTokens table columns f limit ++ [symbol ";"]) := by
  have hselect : Spells "SELECT".toList [word "SELECT"] := spells_word (by decide)
  have hfrom : Spells "FROM".toList [word "FROM"] := spells_word (by decide)
  have hlimit : Spells "LIMIT".toList [word "LIMIT"] := spells_word (by decide)
  have hhead := ((hselect.blank (spells_projection columns)).blank hfrom).blank (spells_name table)
  have hwhere := h.where hnil hhead
  unfold Statement.select selectTokens
  cases limit with
  | none => simpa [limitTokens] using hwhere.semicolon
  | some n =>
    have hall := (hwhere.blank (hlimit.blank (spells_number n))).semicolon
    simpa [limitTokens] using hall

theorem spells_update (table : String) {texts : List String}
    {assignments : List (String × Literal)}
    (hassignments : List.Forall₂ (fun text a => Spells text.toList (assignmentTokens a)) texts
      assignments)
    {fragments : List String} {f : Filter}
    (h : Spells (" ".intercalate fragments).toList f.tokens) (hnil : fragments = [] ↔ f = []) :
    Spells (Statement.update table texts fragments).toList
      (updateTokens table assignments f ++ [symbol ";"]) := by
  have hupdate : Spells "UPDATE".toList [word "UPDATE"] := spells_word (by decide)
  have hset : Spells "SET".toList [word "SET"] := spells_word (by decide)
  have hlist := spells_commaList (List.forall₂_map_right_iff.2 hassignments)
  have hhead := ((hupdate.blank (spells_name table)).blank hset).blank hlist
  unfold Statement.update updateTokens
  simpa using (h.where hnil hhead).semicolon

theorem spells_delete (table : String) {fragments : List String} {f : Filter}
    (h : Spells (" ".intercalate fragments).toList f.tokens) (hnil : fragments = [] ↔ f = []) :
    Spells (Statement.delete table fragments).toList (deleteTokens table f ++ [symbol ";"]) := by
  have hdelete : Spells "DELETE FROM".toList [word "DELETE", word "FROM"] :=
    (spells_word (w := "DELETE") (by decide)).blank (spells_word (w := "FROM") (by decide))
  unfold Statement.delete deleteTokens
  simpa using (h.where hnil (hdelete.blank (spells_name table))).semicolon

theorem spells_dropTable (table : String) :
    Spells (Statement.dropTable table).toList
      ([word "DROP", word "TABLE", word "IF", word "EXISTS", name table] ++ [symbol ";"]) := by
  have hdrop := ((spells_word (w := "DROP") (by decide)).blank
    (spells_word (w := "TABLE") (by decide))).blank ((spells_word (w := "IF") (by decide)).blank
      (spells_word (w := "EXISTS") (by decide)))
  unfold Statement.dropTable
  simpa using (hdrop.blank (spells_name table)).semicolon

theorem read_dropTable (table : String) :
    Command.read? (Statement.dropTable table) = some (.dropTable table) :=
  (spells_dropTable table).command rfl

theorem spells_createUniqueIndex (table column : String) :
    Spells (Statement.createUniqueIndex table column).toList
      ([word "CREATE", word "UNIQUE", word "INDEX", word "IF", word "NOT", word "EXISTS",
        name (indexName table column), word "ON", name table, symbol "(", name column,
        symbol ")"] ++ [symbol ";"]) := by
  have hcreate := ((spells_word (w := "CREATE") (by decide)).blank
    (spells_word (w := "UNIQUE") (by decide))).blank (spells_word (w := "INDEX") (by decide))
  have hmissing := ((spells_word (w := "IF") (by decide)).blank
    (spells_word (w := "NOT") (by decide))).blank (spells_word (w := "EXISTS") (by decide))
  have hon : Spells "ON".toList [word "ON"] := spells_word (by decide)
  have hall := (((((hcreate.blank hmissing).blank (spells_name (indexName table column))).blank
    hon).blank (spells_name table)).blank (spells_name column).parenthesised).semicolon
  unfold Statement.createUniqueIndex Keyword.ifNotExists
  simpa using hall

theorem read_createUniqueIndex (table column : String) :
    Command.read? (Statement.createUniqueIndex table column) =
      some (.createUniqueIndex (indexName table column) table column) :=
  (spells_createUniqueIndex table column).command rfl

theorem read_alter (table : String) {sql : String} {rest : List Char} {ts : List Token}
    {command : Command}
    (hsql : sql.toList = "ALTER TABLE ".toList ++ (quoteName table).toList ++ ' ' :: rest ++ [';'])
    (h : Spells rest ts) (hread : alter? table ts = some command) :
    Command.read? sql = some command := by
  have halter := ((spells_word (w := "ALTER") (by decide)).blank
    (spells_word (w := "TABLE") (by decide))).blank (spells_name table)
  have hall : Spells sql.toList
      (word "ALTER" :: word "TABLE" :: name table :: ts ++ [symbol ";"]) := by
    simpa [hsql] using (halter.blank h).semicolon
  exact hall.command hread

theorem read_renameTable (old new : String) :
    Command.read? (renameTable old new) = some (.renameTable old new) := by
  have hrename := ((spells_word (w := "RENAME") (by decide)).blank
    (spells_word (w := "TO") (by decide))).blank (spells_name new)
  exact read_alter old (by simp [renameTable]) hrename rfl

theorem read_dropColumn (table column : String) :
    Command.read? (dropColumn table column) = some (.dropColumn table column) := by
  have hdrop := ((spells_word (w := "DROP") (by decide)).blank
    (spells_word (w := "COLUMN") (by decide))).blank (spells_name column)
  exact read_alter table (by simp [dropColumn]) hdrop rfl

theorem read_addColumn (table : String) {definition : String} {ts : List Token}
    {c : ColumnDefinition} (h : Spells definition.toList ts) (hread : column? ts = some c) :
    Command.read? (addColumn table definition) = some (.addColumn table c) := by
  have hadd := ((spells_word (w := "ADD") (by decide)).blank
    (spells_word (w := "COLUMN") (by decide))).blank h
  refine read_alter table (by simp [addColumn]) hadd ?_
  exact congrArg (Option.map (Command.addColumn table)) hread

end RecordMapper.Sql
