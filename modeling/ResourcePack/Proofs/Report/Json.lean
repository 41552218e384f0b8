import ResourcePack.Proofs.Json.Values
import ResourcePack.Report

/-
  Reports read back from their JSON text.

  Main declarations:
    * `ResourcePack.Report.toJson_injective`
    * `ResourcePack.Report.lossless_json`

  A report holds texts and sizes only, which all have a JSON text.
  So whatever its paths and names are, nothing of a report is lost
  when it is printed, and there is always a report to print.
-/

namespace ResourcePack

namespace Report

/- What is reported of a resource has a text. -/
theorem printableItems_entryToJson
    (entries : List ReportEntry) :
    Json.PrintableItems (entries.map entryToJson) := by
  induction entries with
  | nil => trivial
  | cons e rest ih => exact ⟨⟨trivial, trivial, trivial, trivial, trivial⟩, ih⟩

/- A report has a text. -/
theorem printable_toJson
    (r : Report) :
    Json.Printable (toJson r) :=
  ⟨trivial, trivial, printableItems_entryToJson r.resources, trivial⟩

theorem entryToJson_injective :
    Function.Injective entryToJson := by
  rintro ⟨name, symbol, size, path⟩ ⟨name', symbol', size', path'⟩ hSame
  simp only [entryToJson, Json.object.injEq, List.cons.injEq, Prod.mk.injEq,
    Json.text.injEq, Json.int.injEq, Int.natCast_inj, true_and,
    and_true] at hSame
  rcases hSame with ⟨rfl, rfl, rfl, rfl⟩
  rfl

theorem toJson_injective :
    Function.Injective toJson := by
  rintro ⟨asm, header, resources⟩ ⟨asm', header', resources'⟩ hSame
  simp only [toJson, Json.object.injEq, List.cons.injEq, Prod.mk.injEq,
    Json.text.injEq, Json.list.injEq, true_and, and_true] at hSame
  rcases hSame with ⟨rfl, rfl, hResources⟩
  rw [List.map_injective_iff.mpr entryToJson_injective hResources]

/-
  The JSON text of a report is read as an object that has its two
  paths and the list of its resources, and for each of these, in
  order, its name, symbol, size and path.  Two different reports have
  different texts, and none has the text of the empty object.
-/
theorem lossless_json
    (r : Report) :
    Json.read r.json =
        some (.object [
          ("asm", .text r.asm),
          ("header", .text r.header),
          ("resources", .list (r.resources.map fun e => .object [
            ("name", .text e.name),
            ("symbol", .text e.symbol),
            ("size", .int e.size),
            ("path", .text e.path)]))]) ∧
      (∀ r' : Report, r'.json = r.json → r' = r) ∧
      r.json ≠ "\x7b\x7d" := by
  have hRead : ∀ r : Report, Json.read r.json = some (toJson r) :=
    fun r => Json.read_pretty (printable_toJson r)
  refine ⟨hRead r, ?_, ?_⟩
  · intro r' hSame
    have hValue := hRead r'
    rw [hSame, hRead r, Option.some.injEq] at hValue
    exact toJson_injective hValue.symm
  · intro hEmpty
    have hValue := hRead r
    have hObject : Json.read "\x7b\x7d" = some (.object []) :=
      Json.read_pretty (j := .object []) trivial
    rw [hEmpty, hObject, Option.some.injEq] at hValue
    cases hValue

/- An empty list takes no line of its own. -/
example :
    json ⟨"r.s", "\"r\".h", []⟩ =
      "\x7b\n" ++
      "  \"asm\": \"r.s\",\n" ++
      "  \"header\": \"\\\"r\\\".h\",\n" ++
      "  \"resources\": []\n" ++
      "\x7d" := by
  decide +kernel

/- A name with a line feed, and the largest size of 64 bits. -/
example :
    json ⟨"r.s", "r.h", [⟨"a\\\n", "a_5c_0a", 18446744073709551615, "/a\x01"⟩]⟩ =
      "\x7b\n" ++
      "  \"asm\": \"r.s\",\n" ++
      "  \"header\": \"r.h\",\n" ++
      "  \"resources\": [\n" ++
      "    \x7b\n" ++
      "      \"name\": \"a\\\\\\n\",\n" ++
      "      \"symbol\": \"a_5c_0a\",\n" ++
      "      \"size\": 18446744073709551615,\n" ++
      "      \"path\": \"/a\\u0001\"\n" ++
      "    \x7d\n" ++
      "  ]\n" ++
      "\x7d" := by
  decide +kernel

end Report

end ResourcePack
