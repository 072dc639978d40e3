import BracketSpacing.Proofs.Breakdown
import BracketSpacing.Proofs.Formatting

/-!
# Settings that are no mapping

* `Value.IsVoid`: the values that say nothing: null, false, zero, and what is empty.
* `Document.IsUnmapped`: a document whose value is neither null nor a mapping. It is refused unless its value is void,
  and then it leaves all defaults (`Settings.ofDocument_of_isUnmapped`).
* `Command.perform_of_isUnmapped`: so does a file with such a document, and commands end before they come to any other
  file.
* `Command.perform_void_settings`: with an empty list for settings `fix` writes files in the default directories.
-/

namespace BracketSpacing

variable {h : Host} {l : Loader} {t : FileTree} {d : Document} {path : String} {bytes : List UInt8}

/-! ## Values that say nothing -/

/-- A value says nothing. -/
inductive Value.IsVoid : Value → Prop where
  | null : IsVoid .null
  | false : IsVoid (.bool false)
  | zero : IsVoid (.int 0)
  | floatZero {f : Float} (h : (f == 0) = true) : IsVoid (.float f)
  | text : IsVoid (.text [])
  | bytes : IsVoid (.bytes [])
  | list : IsVoid (.list [])
  | set : IsVoid (.set [])
  | map : IsVoid (.map [])

namespace Document

theorem isVoid_iff : d.isVoid = true ↔ (d.resolve d.value).IsVoid := by
  rw [isVoid]
  generalize d.resolve d.value = value
  constructor
  · intro h
    split at h
    · exact .null
    · rename_i b
      cases b with
      | false => exact .false
      | true => cases h
    · cases beq_iff_eq.mp h
      exact .zero
    · exact .floatZero h
    · cases List.isEmpty_iff.mp h
      exact .text
    · cases List.isEmpty_iff.mp h
      exact .bytes
    · cases List.isEmpty_iff.mp h
      exact .list
    · cases List.isEmpty_iff.mp h
      exact .set
    · cases List.isEmpty_iff.mp h
      exact .map
    · cases h
  · intro h
    cases h with
    | floatZero h => exact h
    | _ => rfl

/-- The value of a document is neither null nor a mapping. -/
structure IsUnmapped (d : Document) : Prop where
  ne_null : d.resolve d.value ≠ .null
  ne_map : ∀ entries, d.resolve d.value ≠ .map entries

end Document

/-! ## What is read from them -/

namespace Settings

/-- A document that is no mapping is refused unless it says nothing. -/
theorem ofDocument_of_isUnmapped (room : Room) (h : d.IsUnmapped) :
    (¬(d.resolve d.value).IsVoid → ofDocument room d = .error .notMapping) ∧
    ((d.resolve d.value).IsVoid → ofDocument room d = .ok {}) := by
  rw [← Document.isVoid_iff, ofDocument]
  constructor
  · intro hvoid
    rw [if_neg hvoid]
    split
    · rename_i entries hmap
      exact absurd hmap (h.ne_map entries)
    · rfl
  · intro hvoid
    rw [if_pos hvoid]

/-- What a file gives whose bytes are a document. -/
theorem loadFile_of_read (hread : t.read (.ofString path) = .ok bytes) (hload : l.document bytes = .ok d) :
    loadFile l t path = (ofDocument l.room d).mapError .settings := by
  simp only [loadFile, hread, ofBytes, hload]
  rfl

/-- A file that can be read is there. -/
theorem holds_of_read {r : Route} (hread : t.read r = .ok bytes) : t.holds r = true := by
  rw [FileTree.read, FileTree.openFile] at hread
  split at hread
  · cases hread
  · rename_i hnul
    rw [FileTree.fileAt] at hread
    split at hread
    · cases hread
    · rename_i names hlocate
      split at hread
      · rename_i content hget
        simp only [FileTree.holds, FileTree.nodeAt?, if_neg hnul, hlocate, hget]
      · cases hread
      · cases hread

/-- Settings are read from the file of the default name as from any other, if none is named. -/
theorem load_none_of_read (l : Loader) (hread : t.read (.ofString defaultFile) = .ok bytes) :
    load l t none = load l t (some defaultFile) := by
  simp only [load, if_pos (holds_of_read hread)]

end Settings

/-! ## What commands come to -/

namespace Command

/-- What is said of settings that are no mapping. -/
def unmappedMessage : String :=
  "Invalid config file: Config file must contain a mapping at the top level\n"

/-- A command ends at settings that are refused. -/
theorem perform_of_loadFile_eq_error {c : Command} {input : List Char}
    (hfile : c.settingsArguments.file? t = some path)
    (hload : Settings.loadFile h.toLoader t path = .error (.settings .notMapping)) :
    c.perform h input t = .ok { exitCode := 1, err := unmappedMessage, tree := t } := by
  have hloaded : c.settingsArguments.loaded h.toLoader t =
      .error (.inr (.invalidSettings (.settings .notMapping))) := by
    rw [SettingsArguments.loaded_of_file? hfile, hload]
    rfl
  have hprepare :
      c.settingsArguments.prepare h.toLoader t = .error (.inr (.invalidSettings (.settings .notMapping))) := by
    rw [SettingsArguments.prepare, SettingsArguments.settings, hloaded]
    rfl
  exact perform_of_failure hprepare

/-- **Settings that are no mapping.** A document whose value is neither null nor a mapping is refused, and so is a file
that holds it, be it named or of the default name; a command that reads it ends with a message and comes to no other
file. There is one exception: if its value says nothing, it is taken for settings that are all defaults. -/
theorem perform_of_isUnmapped (hd : d.IsUnmapped) (h : Host) :
    (¬(d.resolve d.value).IsVoid →
      Settings.ofDocument h.room d = .error .notMapping ∧
      ∀ t path bytes, t.read (.ofString path) = .ok bytes → h.document bytes = .ok d →
        Settings.load h.toLoader t (some path) = .error (.settings .notMapping) ∧
        (path = Settings.defaultFile → Settings.load h.toLoader t none = .error (.settings .notMapping)) ∧
        ∀ (c : Command) (input : List Char), c.settingsArguments.file? t = some path →
          c.perform h input t = .ok { exitCode := 1, err := unmappedMessage, tree := t }) ∧
    ((d.resolve d.value).IsVoid →
      Settings.ofDocument h.room d = .ok {} ∧
      ∀ t path bytes, t.read (.ofString path) = .ok bytes → h.document bytes = .ok d →
        Settings.load h.toLoader t (some path) = .ok {} ∧
        (path = Settings.defaultFile → Settings.load h.toLoader t none = .ok {}) ∧
        ∀ c : Command, c.settingsArguments.file? t = some path →
          c.settingsArguments.loaded h.toLoader t = .ok {}) := by
  obtain ⟨hrefused, htaken⟩ := Settings.ofDocument_of_isUnmapped h.room hd
  constructor
  · intro hvoid
    refine ⟨hrefused hvoid, fun t path bytes hread hload => ?_⟩
    have hfile : Settings.loadFile h.toLoader t path = .error (.settings .notMapping) := by
      rw [Settings.loadFile_of_read hread hload, hrefused hvoid]
      rfl
    refine ⟨hfile, ?_, fun c input hc => perform_of_loadFile_eq_error hc hfile⟩
    rintro rfl
    exact (Settings.load_none_of_read h.toLoader hread).trans hfile
  · intro hvoid
    refine ⟨htaken hvoid, fun t path bytes hread hload => ?_⟩
    have hfile : Settings.loadFile h.toLoader t path = .ok {} := by
      rw [Settings.loadFile_of_read hread hload, htaken hvoid]
      rfl
    refine ⟨hfile, ?_, fun c hc => ?_⟩
    · rintro rfl
      exact (Settings.load_none_of_read h.toLoader hread).trans hfile
    · rw [SettingsArguments.loaded_of_file? hc, hfile]
      rfl

/-- A tree with a file of settings and a file in a default directory. -/
def withSettings (settings : String) : FileTree :=
  ((FileTree.empty []).addFile ["bracketsmith.yaml"] (Text.Utf8.encode settings.toList)).addFile ["app", "a.php"]
    (Text.Utf8.encode "<?php $a = [1,2];".toList)

theorem perform_of_isUnmapped_list :
    (⟨.part 0, #[.list [.text (Text.pointsOf "a")], .null]⟩ : Document).IsUnmapped ∧
    (fix {}).perform posixHost [] (withSettings "- a") =
      .ok { exitCode := 1, err := unmappedMessage, tree := withSettings "- a" } := by
  have hload : Yaml.load (Text.Utf8.encode "- a".toList) =
      .ok ⟨.part 0, #[.list [.text (Text.pointsOf "a")], .null]⟩ := by cbv
  have hvalue : (⟨.part 0, #[.list [.text (Text.pointsOf "a")], .null]⟩ : Document).resolve (.part 0) =
      .list [.text (Text.pointsOf "a")] := rfl
  have hunmapped : (⟨.part 0, #[.list [.text (Text.pointsOf "a")], .null]⟩ : Document).IsUnmapped :=
    ⟨fun he => Value.noConfusion (hvalue.symm.trans he), fun _ he => Value.noConfusion (hvalue.symm.trans he)⟩
  have hvoid : ¬(Value.list [.text (Text.pointsOf "a")]).IsVoid := by
    rintro ⟨⟩
  obtain ⟨hrefused, -⟩ := perform_of_isUnmapped hunmapped posixHost
  obtain ⟨-, -, hperform⟩ := (hrefused (hvalue ▸ hvoid)).2 (withSettings "- a") Settings.defaultFile _ rfl hload
  exact ⟨hunmapped, hperform (fix {}) [] rfl⟩

/-- An empty list for settings is taken for all defaults, and `fix` writes a file in a default directory. -/
theorem perform_void_settings : Settings.load posixHost.toLoader (withSettings "[]") none = .ok {} ∧
    ∃ p, (fix {}).perform posixHost [] (withSettings "[]") = .ok p ∧
      p.tree.bytesAt? ["app", "a.php"] = some (Text.Utf8.encode "<?php $a = [ 1,2 ];".toList) := by
  have hread : (withSettings "[]").read (.ofString Settings.defaultFile) = .ok (Text.Utf8.encode "[]".toList) := rfl
  have hdocument : Yaml.load (Text.Utf8.encode "[]".toList) = .ok ⟨.part 0, #[.list []]⟩ := by cbv
  have hload : Settings.load posixHost.toLoader (withSettings "[]") none = .ok {} := by
    rw [Settings.load_none_of_read _ hread]
    exact Settings.loadFile_of_read (l := posixHost.toLoader) hread hdocument
  have hprepare : (fix {}).settingsArguments.prepare posixHost.toLoader (withSettings "[]") = .ok standardSetup := by
    have hloaded : (fix {}).settingsArguments.loaded posixHost.toLoader (withSettings "[]") = .ok {} :=
      congrArg (Except.mapError SettingsArguments.unloaded) hload
    rw [SettingsArguments.prepare, SettingsArguments.settings, hloaded]
    rfl
  have hresolves : (withSettings "[]").Resolves {} [] := by
    intro target htarget
    obtain ⟨path, hpath, rfl⟩ := List.mem_map.mp htarget
    fin_cases hpath <;> exact ⟨_, _, rfl, rfl, rfl⟩
  have hvisits : Path.ofString "app/a.php" ∈ (withSettings "[]").visits {} [] := by
    have hwalk : (withSettings "[]").walk {} (.ofString "app/") = .ok [.ofString "app/a.php"] := by cbv
    rw [FileTree.mem_visits_iff hresolves]
    exact Or.inr ⟨"app/", List.mem_cons_self, rfl, _, hwalk, List.mem_singleton_self _⟩
  have hfixed : (normalizeWith .php true 20 "<?php $a = [1,2];".toList).text = "<?php $a = [ 1,2 ];".toList := by cbv
  obtain ⟨p, hperform, htree⟩ :=
    exists_perform_fix_of_resolves (h := posixHost) (a := {}) (Or.inl rfl) hprepare hresolves []
  have hfound : (withSettings "[]").found? (.ofString "app/a.php") =
      some (["app", "a.php"], Text.Utf8.encode "<?php $a = [1,2];".toList) := rfl
  have hbytes := RunArguments.bytesAt?_run (h := posixHost) (a := {}) (x := standardSetup) rfl
    Storage.isSound_default hvisits hfound
  refine ⟨hload, p, hperform, ?_⟩
  rw [htree, hbytes]
  exact congrArg (some ∘ Text.Utf8.encode) hfixed

end Command

end BracketSpacing
