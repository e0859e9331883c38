/-
What stands on the output, said without the program that prints it. Rows are shown in columns, each as wide as its
longest cell (`ShowsRows`), and so a table shows its headers and its rows (`Table.showsRows_render`). From there on,
reports are told by the cells, the lines and the members that they show (`showsApps_render`, `showsVersions_render`,
`render_message`).
-/
import MultiCluster.Proofs.Report.Table
import MultiCluster.Report.Listing
import Mathlib
namespace MultiCluster

/-! ## Columns -/

/-- A line of cells, each of them filled up with spaces to the width of its column and followed by two more. The line
does not end in blanks. -/
def printedLine (widths : List Nat) (row : List String) : String :=
  String.ofList (Text.trimEnd
    (List.zipWith (fun width s => (String.toList s).rightpad width ' ' ++ [' ', ' ']) widths row).flatten) ++ "\n"

/-- The text has a line for each row, with the cells in columns that are as wide as their longest cells. -/
def ShowsRows (rows : List (List String)) (text : String) : Prop :=
  ∃ widths : List Nat, (∀ row ∈ rows, row.length = widths.length) ∧
    (∀ j width, widths[j]? = some width → IsGreatest {n | ∃ row ∈ rows, (row.getD j "").length = n} width) ∧
    text = String.join (rows.map (printedLine widths))

namespace Table

variable {t : Table} {row : List String}

/-- The widths of the columns. -/
def widths (t : Table) : List Nat := (List.range t.headers.length).map t.width

theorem rightpad_eq_fill (width : Nat) (s : String) : s.toList.rightpad width ' ' = fill width s := by
  rw [List.rightpad, fill, String.length_toList]

/-- To fill up the last cell as well only adds spaces at the end. -/
theorem exists_flatten_fill (t : Table) (row : List String) (j left : Nat) :
    ∃ n, ((List.range' j (left + 1)).map fun i => fill (t.width i) (cell row i) ++ [' ', ' ']).flatten =
      t.cells row j left ++ List.replicate n ' ' := by
  induction left generalizing j with
  | zero => exact ⟨t.width j - (cell row j).length + 2, by simp [cells, fill, List.replicate_add]⟩
  | succ left ih =>
    obtain ⟨n, hn⟩ := ih (j + 1)
    exact ⟨n, by rw [List.range'_succ, List.map_cons, List.flatten_cons, hn, cells, ← List.append_assoc]⟩

theorem eq_map_cell (row : List String) : row = (List.range row.length).map (cell row) := by
  refine List.ext_getElem (by simp) fun i hi _ => ?_
  simp [cell, List.getElem?_eq_getElem hi]

theorem printedLine_widths (h : row.length = t.headers.length) :
    printedLine t.widths row = String.ofList (t.line row ++ ['\n']) := by
  have hcells : List.zipWith (fun width s => (String.toList s).rightpad width ' ' ++ [' ', ' ']) t.widths row =
      (List.range t.headers.length).map fun i => fill (t.width i) (cell row i) ++ [' ', ' '] := by
    simp only [rightpad_eq_fill]
    conv_lhs => rw [eq_map_cell row, widths, h, List.zipWith_map, List.zipWith_self]
  have hline : Text.trimEnd ((List.range t.headers.length).map fun i =>
      fill (t.width i) (cell row i) ++ [' ', ' ']).flatten = t.line row := by
    unfold line
    cases hn : t.headers.length with
    | zero => rfl
    | succ n =>
      obtain ⟨m, hm⟩ := exists_flatten_fill t row 0 n
      rw [List.range_eq_range', hm, Text.trimEnd_append_blank (Text.allBlank_replicate m)]
  rw [printedLine, hcells, hline, String.ofList_append]

/-- A table shows its headers and its rows, if none of these has cells too many or too few. -/
theorem showsRows_render (h : ∀ row ∈ t.rows, row.length = t.headers.length) :
    ShowsRows (t.headers :: t.rows) t.render := by
  have hlength : ∀ row ∈ t.headers :: t.rows, row.length = t.headers.length := List.forall_mem_cons.2 ⟨rfl, h⟩
  refine ⟨t.widths, fun row hrow => by simpa [widths] using hlength row hrow, fun j width hj => ?_, ?_⟩
  · obtain ⟨hlt, rfl⟩ := List.getElem?_eq_some_iff.1 hj
    simpa [widths, cell] using t.isGreatest_width j
  · have hlines : (t.headers :: t.rows).map (printedLine t.widths) =
        (t.headers :: t.rows).map fun row => String.ofList (t.line row ++ ['\n']) :=
      List.map_congr_left fun row hrow => printedLine_widths (hlength row hrow)
    rw [hlines, ← String.toList_inj, String.toList_join, render, String.toList_ofList, lines]
    simp [List.flatMap_map]

end Table

/-! ## Reports -/

namespace Format

/-- What confirms that something was done: a line for people, an object with the message for programs. -/
def confirmation : Format → String → String
  | .table, text => "✓ " ++ text ++ "\n"
  | .json, text => "\x7b\n  \"message\": " ++ Json.quoted text ++ "\n\x7d\n"

/-- The apps as objects. -/
def appsValue (rows : List AppRow) : Json :=
  .object [("apps", .array (rows.map fun r => .object [("id", .text r.id), ("name", .text r.name),
    ("state", .text r.state), ("version", .text r.version), ("targets", .array (r.targets.map .text))]))]

/-- The versions as objects. -/
def versionsValue (entries : List VersionEntry) : Json :=
  .object [("versions", .array (entries.map fun e =>
    .object [("version", .text e.version), ("current", .bool e.current)]))]

/-- The apps are shown in the rows of a table, or as a value. -/
def ShowsApps (rows : List AppRow) : Format → String → Prop
  | .table => ShowsRows (["NAME", "STATE", "VERSION", "TARGET_PROJECTS"] ::
      rows.map fun r => [r.name, r.state, r.version, ",".intercalate r.targets])
  | .json => (· = (appsValue rows).pretty ++ "\n")

/-- The apps are shown by their IDs, one a line, or as a value. -/
def ShowsIds (rows : List AppRow) : Format → String → Prop
  | .table => (· = String.join (rows.map fun r => r.id ++ "\n"))
  | .json => (· = (appsValue rows).pretty ++ "\n")

/-- The versions are shown in the rows of a table, the current ones with a star, or as a value. -/
def ShowsVersions (entries : List VersionEntry) : Format → String → Prop
  | .table => ShowsRows (["CURRENT", "VERSION"] :: entries.map fun e => [if e.current then "*" else "", e.version])
  | .json => (· = (versionsValue entries).pretty ++ "\n")

end Format

theorem Text.commaList_eq_intercalate (sep : String) (xs : List String) : commaList sep xs = sep.intercalate xs := by
  have hjoin : ∀ l : List (List Char), join sep.toList l = sep.toList.intercalate l := by
    intro l
    induction l with
    | nil => rfl
    | cons p l ih => cases l <;> simp_all [join]
  rw [commaList, hjoin, ← String.toList_inj, String.toList_ofList, String.toList_intercalate]

namespace Report

theorem toJson_apps (rows : List AppRow) (quiet : Bool) : (apps rows quiet).toJson = Format.appsValue rows := rfl

theorem toJson_versions (entries : List VersionEntry) : (versions entries).toJson = Format.versionsValue entries := rfl

theorem showsApps_render (format : Format) (rows : List AppRow) :
    format.ShowsApps rows ((apps rows false).render format) := by
  cases format with
  | table =>
    have hrows : ShowsRows _ (ofApps rows).render := Table.showsRows_render (by simp [ofApps])
    simp only [ofApps, Text.commaList_eq_intercalate] at hrows
    simp only [render, toTable, Format.ShowsApps, ofApps, Text.commaList_eq_intercalate]
    exact hrows
  | json => simp only [render, toJson_apps, Format.ShowsApps]

theorem showsIds_render (format : Format) (rows : List AppRow) :
    format.ShowsIds rows ((apps rows true).render format) := by
  cases format with
  | table => simp only [render, toTable, idLines, Format.ShowsIds]
  | json => simp only [render, toJson_apps, Format.ShowsIds]

theorem showsVersions_render (format : Format) (entries : List VersionEntry) :
    format.ShowsVersions entries ((versions entries).render format) := by
  cases format with
  | table =>
    have hrows : ShowsRows _ (ofVersions entries).render := Table.showsRows_render (by simp [ofVersions])
    simp only [render, toTable, Format.ShowsVersions]
    exact hrows
  | json => simp only [render, toJson_versions, Format.ShowsVersions]

theorem render_message (format : Format) (text : String) :
    (message text).render format = format.confirmation text := by
  cases format with
  | table => simp only [render, toTable, Format.confirmation]
  | json =>
    have hname : Json.quoted "message" = "\"message\"" := by decide
    have hindentation : Json.indentation (0 + 1) = "  " ∧ Json.indentation 0 = "" := by decide
    have hopening : "\x7b\n  \"message\": " = "\x7b" ++ "\n" ++ "  " ++ "\"message\"" ++ ": " := by decide
    have hclosing : "\n\x7d\n" = "\n" ++ "" ++ "\x7d" ++ "\n" := by decide
    rw [render, toJson, Json.pretty, Json.prettyAt, Json.prettyMembers, Json.prettyMembers, Json.prettyAt, Json.block,
      Json.between, hname, hindentation.1, hindentation.2, Format.confirmation, hopening, hclosing]
    simp only [String.append_assoc]

end Report

end MultiCluster
