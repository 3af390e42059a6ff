import WordSpace.Journal
import WordSpace.Proofs.Catalog

/-!
Journals in writing.

A journal of the level for debugging writes each record of that level on a line of its own, behind
its own name and that of the level (`Journal.writeAll_of_debug`). The record of an evaluation or a
search says its operation, its status and its details, which have keys in quotes
(`Record.reads_evaluation`, `Record.reads_search`).
-/

namespace WordSpace

/-! ## Messages -/

/-- Details in writing: each behind its key, which stands in quotes. -/
def detailsText (details : List (String × String)) : String :=
  "\x7b" ++ String.intercalate ", " (details.map fun detail => "'" ++ detail.1 ++ "': " ++ detail.2)
    ++ "\x7d"

/-- An operation in writing: its name, its status and its details. -/
def operationText (name status : String) (details : List (String × String)) : String :=
  "Operation: " ++ name ++ ", Status: " ++ status ++ ", Details: " ++ detailsText details

/-- A text has nothing that is escaped between quotes. -/
def IsPlain (text : String) : Prop := Text.quoted text = "'" ++ text ++ "'"

instance (text : String) : Decidable (IsPlain text) := inferInstanceAs (Decidable (_ = _))

namespace Record

/-- A record is of the level for debugging, and says a text. -/
structure Reads (record : Record) (message : String) : Prop where
  level : record.level = .debug
  render : record.content.render = message

theorem quoted_append_of_isPlain {key : String} (plain : IsPlain key) (value : String) :
    Text.quoted key ++ ": " ++ value = "'" ++ key ++ "': " ++ value := by
  calc Text.quoted key ++ ": " ++ value
      = "'" ++ key ++ "'" ++ ": " ++ value := congrArg (· ++ ": " ++ value) plain
    _ = "'" ++ key ++ ("'" ++ ": ") ++ value := congrArg (· ++ value) String.append_assoc
    _ = "'" ++ key ++ "': " ++ value := rfl

theorem renderDetails_eq {details : Catalog Detail}
    (plain : ∀ key ∈ details.names, IsPlain key) :
    renderDetails details =
      detailsText (details.entries.map fun entry => (entry.1, entry.2.render)) := by
  have rows : details.entries.map (fun entry => Text.quoted entry.1 ++ ": " ++ entry.2.render) =
      (details.entries.map fun entry => (entry.1, entry.2.render)).map
        fun detail => "'" ++ detail.1 ++ "': " ++ detail.2 := by
    rw [List.map_map]
    refine List.map_congr_left fun entry member => ?_
    exact quoted_append_of_isPlain (plain entry.1 (List.mem_map_of_mem member)) entry.2.render
  exact congrArg (fun rows => "\x7b" ++ String.intercalate ", " rows ++ "\x7d") rows

/-- The record of an operation reads what it is, how it came out, and its details, if it has some
and their keys are distinct. -/
theorem reads_operation (pairs : List (String × Detail)) (name status : String)
    (filled : pairs ≠ []) (distinct : (pairs.map Prod.fst).Nodup)
    (plain : ∀ key ∈ pairs.map Prod.fst, IsPlain key) :
    (operation name status (.ofList pairs) .debug).Reads
      (operationText name status (pairs.map fun pair => (pair.1, pair.2.render))) := by
  have entries : (Catalog.ofList pairs).entries = pairs := Catalog.entries_ofList distinct
  have some : (Catalog.ofList pairs).isEmpty = false := by
    simpa [Catalog.isEmpty, entries] using filled
  have keys : ∀ key ∈ (Catalog.ofList pairs).names, IsPlain key := by
    rwa [Catalog.names, entries]
  refine ⟨rfl, ?_⟩
  rw [operation, Content.render, some, if_neg Bool.false_ne_true, renderDetails_eq keys, entries]
  exact String.append_assoc.symm

/-- The record of an evaluation reads its kind twice, its status and one more detail. -/
theorem reads_evaluation {kind key : String} (status : String) (detail : Detail)
    (plainKind : IsPlain kind) (plainKey : IsPlain key) (other : "kind" ≠ key) :
    (evaluation kind status [(key, detail)]).Reads
      (operationText ("evaluate." ++ kind) status
        [("kind", "'" ++ kind ++ "'"), (key, detail.render)]) := by
  have distinct : ["kind", key].Nodup := by simpa using other
  have plain : ∀ name ∈ ["kind", key], IsPlain name :=
    List.forall_mem_cons.2 ⟨by decide, List.forall_mem_singleton.2 plainKey⟩
  have read := reads_operation [("kind", .text kind), (key, detail)] ("evaluate." ++ kind) status
    (List.cons_ne_nil _ _) distinct plain
  rw [← show Text.quoted kind = _ from plainKind]
  exact read

/-- The record of a search reads how many words were asked for, excluded, found and searched. -/
theorem reads_search {asked : Int} (short : Decimal.IsShort asked)
    (excluded returned candidates : Nat) :
    (search (.number asked short) (.size excluded) (.size returned) (.size candidates)).Reads
      (operationText "embeddings.nearest" "success"
        [("top_k", toString asked), ("excluded", toString excluded),
          ("returned", toString returned), ("candidates", toString candidates)]) := by
  have distinct : ["top_k", "excluded", "returned", "candidates"].Nodup := by decide
  have plain : ∀ name ∈ ["top_k", "excluded", "returned", "candidates"], IsPlain name := by decide
  exact reads_operation _ "embeddings.nearest" "success" (List.cons_ne_nil _ _) distinct plain

end Record

/-! ## Lines -/

namespace Journal

variable {journal : Journal} {records : List Record}

/-- A journal of the level for debugging writes each record of that level on a line. -/
theorem writeAll_of_debug (chosen : journal.level = .debug)
    (same : ∀ record ∈ records, record.level = .debug) :
    journal.writeAll records = String.join (records.map fun record =>
      journal.name ++ " - DEBUG - " ++ record.content.render ++ "\n") := by
  have admits : journal.admits .debug = true := by
    have effective : journal.effectiveLevel = .debug := by
      rw [effectiveLevel, if_neg (by simp [chosen, Level.debug, Level.unset]), chosen]
    rw [admits, effective]
    rfl
  refine congrArg String.join (List.map_congr_left fun record member => ?_)
  rw [write, same record member, if_pos admits, line, same record member]
  calc journal.name ++ " - " ++ "DEBUG" ++ " - " ++ record.content.render ++ "\n"
      = journal.name ++ (" - " ++ "DEBUG" ++ " - ") ++ record.content.render ++ "\n" := by
        simp only [String.append_assoc]
    _ = journal.name ++ " - DEBUG - " ++ record.content.render ++ "\n" := rfl

end Journal

end WordSpace
