/-
# JSON files

Charts are written by hand in YAML and exported as JSON, and files of both formats are read as YAML.
A file that holds a JSON object gives the chart which the object describes, if the text is written
in forms that both formats read alike (`loadChart_json`); whole numbers of too many digits are
refused by both. Other forms give no chart, or a chart from other values (`loadChart_json_differs`).
-/

import ChartQuery.Proofs.Library.SingleFile
import ChartQuery.Proofs.Yaml.Document

namespace ChartQuery

open Json (Document Number Piece)

namespace FileTree

variable {tree : FileTree} {path : Path} {bytes : List UInt8}

/-- Every text of a JSON object can be decoded, as long as no whole number in it has too many
digits. If YAML reads the text, its file gives the chart or the failure of the object in which
numbers with certain powers are texts. Where there are no such numbers, this is the object that
decoding gives. A text with a whole number of too many digits is refused for it, by the decoder and
from its file. -/
theorem loadChart_json {d : Document} (hfile : tree.find path = some (.file bytes))
    (hbytes : Text.decodeUtf8 bytes = .ok d.text) :
    (d.root.hasShortNumbers = true →
      Json.read (String.ofList d.text) = .ok (.object (d.fields Number.value)) ∧
        (d.isReadable = true →
          Yaml.read bytes = .ok (.object (d.fields Number.yamlValue)) ∧
            tree.loadChart path = singleChart path (d.fields Number.yamlValue))) ∧
      (d.root.hasPortableNumbers = true →
        d.fields Number.yamlValue = d.fields Number.value) ∧
      (d.root.hasShortNumbers = false →
        (∃ digits, Json.read (String.ofList d.text) =
          .error ⟨.oversizedNumber digits, Numeral.oversizedWords digits⟩) ∧
        (d.isReadable = true → ∃ digits,
          Yaml.read bytes = .error (.unreadable (.oversizedInt digits)) ∧
            tree.loadChart path =
              .error (.unreadable path (.unreadable (.oversizedInt digits))))) := by
  have hchart : tree.loadChart path = Source.chart ⟨path, .file bytes⟩ := by
    rw [loadChart, hfile]
  refine ⟨fun hshort => ⟨Json.read_document hshort, fun hd => ?_⟩, d.fields_yamlValue,
    fun hlong => ⟨Json.read_document_of_long hlong, fun hd => ?_⟩⟩
  · have hread : Yaml.read bytes = .ok (.object (d.fields Number.yamlValue)) :=
      Yaml.read_json hd hbytes hshort
    exact ⟨hread, hchart.trans (Source.chart_of_object hread rfl)⟩
  · obtain ⟨digits, hrefused⟩ := Yaml.read_json_of_long hd hbytes hlong
    exact ⟨digits, hrefused, hchart.trans (by simp [Source.chart, Source.document, hrefused])⟩

/-- A text with a number that has a power, with escapes, and with a key that stands there twice. -/
theorem loadChart_json_twice :
    let key : List Piece := [.plain 't' rfl, .plain 'y' rfl, .plain 'p' rfl, .plain 'e' rfl]
    let number : Json.Number :=
      { negative := true
        whole := ⟨['1'], rfl, by decide⟩
        fraction := some ⟨['5'], rfl, by decide⟩
        power := some ⟨false, .plus, ⟨['3'], rfl, by decide⟩⟩ }
    let text : List Piece := [.plain 'b' rfl, .unit '0' '0' 'E' '9' rfl, .short .lineFeed]
    let d : Document :=
      { before := .none
        root := .object
          (.more ⟨.none, key, .none, ⟨[' '], rfl⟩⟩
            (.list (.last .none (.number number) .none)) .none
          (.last ⟨⟨['\r', '\n', ' '], rfl⟩, key, ⟨[' '], rfl⟩, .none⟩ (.text text) .none))
        behind := ⟨['\n'], rfl⟩ }
    let path : Path := ⟨false, ["charts", "sales.json"]⟩
    let bytes : List UInt8 := d.text.map fun c => .ofNat c.toNat
    let tree : FileTree := ⟨[⟨path, .file bytes⟩]⟩
    d.text = "\x7b\"type\": [-1.5e+3],\r\n \"type\" :\"b\\u00E9\\n\"\x7d\n".toList ∧
      Json.read (String.ofList d.text) = .ok (.object (d.fields Number.value)) ∧
      Yaml.read bytes = .ok (.object (d.fields Number.value)) ∧
      tree.loadChart path = singleChart path (d.fields Number.value) ∧
      (tree.loadChart path).toOption.map (·.kind) = some (some ("bé\n" : Text)) := by
  intro key number text d path bytes tree
  have hfile : tree.find path = some (.file bytes) := rfl
  have hbytes : Text.decodeUtf8 bytes = .ok d.text := by decide +kernel
  obtain ⟨hreads, hsame, -⟩ := loadChart_json hfile hbytes
  obtain ⟨hjson, hyaml⟩ := hreads rfl
  obtain ⟨hread, hchart⟩ := hyaml (by decide +kernel)
  have hkind : (tree.loadChart path).toOption.map (·.kind) = some (some ("bé\n" : Text)) := by
    decide +kernel
  rw [hsame rfl] at hread hchart
  exact ⟨by decide +kernel, hjson, hread, hchart, hkind⟩

/-- Three texts that YAML does not read as what they mean: one with tabs before its fields, one with
a colon on another line than its key, and one with a power that makes a text. The first two give a
chart if they are decoded, and none from their files; with the third it is the other way round. -/
theorem loadChart_json_differs :
    let path : Path := ⟨false, ["charts", "sales.json"]⟩
    let decoded : String → Option Visualization := fun text =>
      match Json.read text with
      | .ok (.object fields) => (singleChart path fields).toOption
      | _ => none
    let loaded : String → Option Visualization := fun text =>
      let tree : FileTree := ⟨[⟨path, .file (text.toList.map fun c => .ofNat c.toNat)⟩]⟩
      (tree.loadChart path).toOption
    let indented := "\x7b\n\t\"type\": \"bar\"\n\x7d"
    let parted := "\x7b\"type\"\n: \"bar\"\x7d"
    let power := "\x7b\"type\": 1e5\x7d"
    ((decoded indented).isSome ∧ (loaded indented).isNone) ∧
      ((decoded parted).isSome ∧ (loaded parted).isNone) ∧
      (decoded power).isNone ∧ (loaded power).map (·.kind) = some (some ("1e5" : Text)) := by
  decide +kernel

end FileTree

end ChartQuery
