import GraphImport.Compile.Settings
import GraphImport.Delivery.Exchange
import GraphImport.Delivery.Settings
import GraphImport.Proofs.Json.Recovery
import GraphImport.Script
import Mathlib.Data.List.Nodup

/-!
# Scripts, settings and requests as JSON

Whatever a script or the settings hold, they are read back from their JSON text. A request is
written on one line when it is sent and on several when it is shown; both are texts of one JSON
value, which holds the statement as it is.

* `Statement.recovers`, `Script.recovers` — scripts.
* `Compile.Settings.recovers`, `Delivery.Settings.recovers` — settings.
* `Delivery.isPlain_transactionJson` — requests.
* `serialization_lossless` — all of them are read back.
-/

namespace GraphImport

open Json (onlyBlanks_empty)

/-! ## Scripts -/

/-- A kind is found under its name. -/
theorem Statement.Kind.find?_byName (kind : Statement.Kind) :
    byName.find? kind.name = some kind := by
  cases kind <;> rfl

/-- **A statement is read back**, whatever its text. -/
theorem Statement.recovers (levels : Nat) (s : Statement) :
    Statement.record.decoder.Recovers (levels + 1) s.toJson.compact s := by
  have hkind : Statement.record.Fills levels Json.compact (some s.text, none)
      [("kind", .string s.kind.name)] (some s.text, some s.kind) :=
    .ofDecoder (.choice (Kind.find?_byName s.kind)) rfl rfl (.nil _)
  have hall : Statement.record.Fills levels Json.compact Statement.record.start
      [("text", .string s.text), ("kind", .string s.kind.name)] (some s.text, some s.kind) :=
    .ofDecoder (.text s.text) rfl rfl hkind
  unfold toJson
  rw [Json.compact_object]
  exact hall.recovers rfl onlyBlanks_empty onlyBlanks_empty

/-- **A script is read back**, however many statements it has. -/
theorem Script.recovers (levels : Nat) (s : Script) :
    Script.record.decoder.Recovers (levels + 3) s.toJson.compact s := by
  have hlist : (Json.Decoder.list Statement.record.decoder).Recovers (levels + 2)
      (Json.compact (.array (s.statements.map Statement.toJson))) s.statements := by
    rw [Json.compact_array, List.map_map]
    exact .list onlyBlanks_empty onlyBlanks_empty fun statement _ => statement.recovers levels
  have hall : Script.record.Fills (levels + 2) Json.compact Script.record.start
      [("statements", .array (s.statements.map Statement.toJson))] (some s.statements) :=
    .ofDecoder hlist rfl rfl (.nil _)
  unfold toJson
  rw [Json.compact_object]
  exact hall.recovers rfl onlyBlanks_empty onlyBlanks_empty

/-! ## Settings -/

/-- A mode is found under its name. -/
theorem StringMode.find?_byName (mode : StringMode) : byName.find? mode.name = some mode := by
  cases mode <;> rfl

namespace Compile.Settings

/-- **A limit of 64 bits is read back**, and so is that there is none. -/
theorem limit_recovers (levels : Nat) {o : Option Nat} (h : ∀ n ∈ o, n < 2 ^ 64) :
    limit.Recovers levels (limitJson o).compact o := by
  cases o with
  | none => exact .none
  | some n =>
      have hnull : (limitJson (some n)).compact.toList.head? ≠ some 'n' := by
        obtain ⟨c, cs, htext, hc⟩ := Json.toString_eq_cons n
        change (toString n).toList.head? ≠ some 'n'
        rw [htext]
        rintro ⟨rfl⟩
        exact absurd hc (by decide)
      exact .some (.natural "usize" (h n rfl)) hnull

/-- **The settings of a compilation are read back**, with limits of 64 bits or without limits. -/
theorem recovers (levels : Nat) (s : Settings) (hnodes : ∀ n ∈ s.maxNodes, n < 2 ^ 64)
    (hrelationships : ∀ n ∈ s.maxRelationships, n < 2 ^ 64) :
    record.decoder.Recovers (levels + 1) s.toJson.compact s := by
  have hlast : record.Fills levels Json.compact ⟨some s.mode, some s.maxNodes, none⟩
      [("max_relationships", limitJson s.maxRelationships)]
      ⟨some s.mode, some s.maxNodes, some s.maxRelationships⟩ :=
    .ofDecoder (limit_recovers levels hrelationships) rfl rfl (.nil _)
  have hlimits : record.Fills levels Json.compact ⟨some s.mode, none, none⟩
      [("max_nodes", limitJson s.maxNodes), ("max_relationships", limitJson s.maxRelationships)]
      ⟨some s.mode, some s.maxNodes, some s.maxRelationships⟩ :=
    .ofDecoder (limit_recovers levels hnodes) rfl rfl hlast
  have hall : record.Fills levels Json.compact record.start
      [("literal_mode", .string s.mode.name), ("max_nodes", limitJson s.maxNodes),
        ("max_relationships", limitJson s.maxRelationships)]
      ⟨some s.mode, some s.maxNodes, some s.maxRelationships⟩ :=
    .ofDecoder (.choice (StringMode.find?_byName s.mode)) rfl rfl hlimits
  unfold toJson
  rw [Json.compact_object]
  exact hall.recovers rfl onlyBlanks_empty onlyBlanks_empty

end Compile.Settings

/-- **The settings of a delivery are read back**, with any address and a time of 64 bits. -/
theorem Delivery.Settings.recovers (levels : Nat) (s : Settings) (h : s.timeoutSeconds < 2 ^ 64) :
    record.decoder.Recovers (levels + 1) s.toJson.compact s := by
  have hstrict : record.Fills levels Json.compact ⟨some s.baseUri, some s.timeoutSeconds, none⟩
      [("fail_on_server_errors", .bool s.strict)]
      ⟨some s.baseUri, some s.timeoutSeconds, some s.strict⟩ :=
    .ofDecoder (.flag s.strict) rfl rfl (.nil _)
  have htime : record.Fills levels Json.compact ⟨some s.baseUri, none, none⟩
      [("timeout_secs", .number (.integer s.timeoutSeconds)),
        ("fail_on_server_errors", .bool s.strict)]
      ⟨some s.baseUri, some s.timeoutSeconds, some s.strict⟩ :=
    .ofDecoder (.natural "u64" h) rfl rfl hstrict
  have hall : record.Fills levels Json.compact record.start
      [("base_uri", .string s.baseUri), ("timeout_secs", .number (.integer s.timeoutSeconds)),
        ("fail_on_server_errors", .bool s.strict)]
      ⟨some s.baseUri, some s.timeoutSeconds, some s.strict⟩ :=
    .ofDecoder (.text s.baseUri) rfl rfl htime
  unfold toJson
  rw [Json.compact_object]
  exact hall.recovers rfl onlyBlanks_empty onlyBlanks_empty

/-! ## Requests -/

/-- **A transaction is read back** when it was printed, whatever its statement. -/
theorem Delivery.isPlain_transactionJson (statement : String) :
    Json.IsPlain Json.maxLevels (transactionJson statement) := by
  -- Three levels are used up: the object, its array and the object in it.
  have hinner : Json.IsPlain 124 (.string statement) := .string statement
  refine .object (List.nodup_singleton _) fun member hmember => ?_
  rw [List.mem_singleton.mp hmember]
  refine .array fun item hitem => ?_
  rw [List.mem_singleton.mp hitem]
  refine .object (List.nodup_singleton _) fun member hmember => ?_
  rw [List.mem_singleton.mp hmember]
  exact hinner

/-! ## Whole texts -/

/-- **What is written as JSON is read back as it was.** Every script is read back from its text on
one line, and so are the settings of a compilation, whose limits are absent or fit in 64 bits, and
those of a delivery, whose time fits in 64 bits. A request is one JSON value on one line and on
several: its only statement is the text itself. Strings in these texts are written with short
escapes, with the codes of other controls, and with all other characters as they are. -/
theorem serialization_lossless :
    (∀ script : Script, Script.ofText script.toJson.compact = .ok script) ∧
    (∀ settings : Compile.Settings, (∀ n ∈ settings.maxNodes, n < 2 ^ 64) →
      (∀ n ∈ settings.maxRelationships, n < 2 ^ 64) →
      Compile.Settings.ofText settings.toJson.compact = .ok settings) ∧
    (∀ settings : Delivery.Settings, settings.timeoutSeconds < 2 ^ 64 →
      Delivery.Settings.ofText settings.toJson.compact = .ok settings) ∧
    (∀ statement : String, ∃ request : Json,
      Json.parse (Delivery.transactionJson statement).compact = .ok request ∧
      Json.parse (Delivery.transactionJson statement).pretty = .ok request ∧
      request = .object [("statements", .array [.object [("statement", .string statement)]])]) ∧
    ∀ s : String, Json.IsStringText s (Json.compact (.string s)) ∧
      Json.IsStringText s (Json.pretty (.string s)) := by
  refine ⟨fun script => ?_, fun settings hnodes hrelationships => ?_, fun settings htime => ?_,
    fun statement => ?_, fun s => ⟨Json.isStringText_quote s, Json.isStringText_quote s⟩⟩
  · exact (script.recovers 124).decode
  · exact (settings.recovers 126 hnodes hrelationships).decode
  · exact (settings.recovers 126 htime).decode
  · have hplain := Delivery.isPlain_transactionJson statement
    exact ⟨_, Json.parse_compact hplain, Json.parse_pretty hplain, rfl⟩

/-- The largest limit and the longest time are read back from their texts. -/
theorem serialization_lossless_largest :
    (Compile.Settings.toJson ⟨.escaped, some (2 ^ 64 - 1), none⟩).compact =
        "\x7b\"literal_mode\":\"Escaped\",\"max_nodes\":18446744073709551615," ++
          "\"max_relationships\":null\x7d" ∧
      Compile.Settings.ofText
          (Compile.Settings.toJson ⟨.escaped, some (2 ^ 64 - 1), none⟩).compact =
        .ok ⟨.escaped, some (2 ^ 64 - 1), none⟩ ∧
      Delivery.Settings.ofText
          (Delivery.Settings.toJson ⟨"\\ \"\u0001\n\u00e9", 2 ^ 64 - 1, true⟩).compact =
        .ok ⟨"\\ \"\u0001\n\u00e9", 2 ^ 64 - 1, true⟩ :=
  ⟨by decide +kernel,
    serialization_lossless.2.1 ⟨.escaped, some (2 ^ 64 - 1), none⟩ (by simp) (by simp),
    serialization_lossless.2.2.1 ⟨"\\ \"\u0001\n\u00e9", 2 ^ 64 - 1, true⟩ (by decide)⟩

end GraphImport
