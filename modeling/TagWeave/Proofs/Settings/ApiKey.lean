import TagWeave.Http.Application
import TagWeave.Proofs.Settings.Loading
import TagWeave.Proofs.Settings.Spelling

/-! The key that clients must send, where a variable gives it. The variable is read for what it spells
before it is taken for a text, so clients must send what is written again from that: the key itself only
if it keeps its spelling. -/
namespace TagWeave

namespace Http

variable {settings : Settings} {request : Request} {key : Text}

/-- A request has the key exactly if its first header for it can be read and is the key. -/
theorem keyFailure?_eq_none_iff (locked : settings.apiKey = some key) :
    keyFailure? settings request = none ↔ request.headers.text? "x-api-key" = some key := by
  unfold keyFailure?
  rw [locked]
  dsimp only
  cases request.headers.text? "x-api-key" with
  | none => exact iff_of_false (Option.some_ne_none _) (Option.some_ne_none key).symm
  | some given =>
    dsimp only
    by_cases same : given = key
    · rw [if_pos same, same]
      exact iff_of_true rfl rfl
    · rw [if_neg same]
      exact iff_of_false (Option.some_ne_none _) fun other => same (Option.some.inj other)

theorem text?_of_first? {headers : Headers} {name : String}
    (sent : headers.first? name = some key) (plain : key.all isPlain = true) :
    headers.text? name = some key := by
  rw [Headers.text?, sent, Option.filter_some, if_pos plain]

end Http

namespace Disk

variable (directory : Place)

theorem nearest?_of_no_files (name : Text) (above : Place) (further : List Text) :
    nearest? ⟨[], directory⟩ name above further = none := by
  induction further generalizing above with
  | nil => rfl
  | cons part further ih =>
    rw [nearest?, ih]
    rfl

theorem read?_of_no_files (path : Text) : read? ⟨[], directory⟩ path = none := by
  unfold read?
  split
  · cases follow ⟨[], directory⟩ directory (partsOf path) <;> rfl
  · rfl

end Disk

theorem Loader.fileLayer_of_no_files (loader : Loader) (directory : Place) (path : Text) :
    loader.fileLayer ⟨[], directory⟩ path = .ok [] := by
  have none_found : loader.findFile? ⟨[], directory⟩ path = none := by
    simp only [findFile?, List.findSome?_eq_none_iff]
    intro format _ extension _
    cases Disk.withExtension? extension path with
    | none => rfl
    | some longer => rw [Option.bind_some, Disk.read?_of_no_files, Option.map_none]
  rw [fileLayer, Disk.read?_of_no_files, none_found]

namespace Settings

variable {setting : Setting} {text : Text} {base : Entries Setting} {loader : Loader}

theorem environment_of_no_files (known : Variables) (directory : Place) :
    environment known ⟨[], directory⟩ = known := by
  rw [environment, Disk.nearest?_of_no_files]

theorem isSettingName_api : Text.IsSettingName "api".toList := by decide

theorem isSettingName_key : Text.IsSettingName "key".toList := by decide

def keySection (setting : Setting) : Text × Setting :=
  ("api".toList, .table [("key".toList, setting)])

theorem variableLayer_key (key : Text) :
    variableLayer [("API__KEY".toList, key)] = [("api.key".toList, Setting.ofText key)] := by
  have dotted : dottedName (Text.lower "API__KEY".toList) = "api.key".toList := by decide +kernel
  have other : "api.key".toList ≠ listName := by decide
  simp only [variableLayer, List.map_cons, List.map_nil, variableEntry, dotted, if_neg other]
  cases Setting.ofText key <;> rfl

/-- What gives a text is no table, so there is nothing in it to put in order. -/
theorem arranged_of_asText? (given : setting.asText? = some text) (order : List Text → Layer → Layer)
    (place : List Text) : setting.arranged order place = setting := by
  cases setting with
  | table members => cases given
  | null | list _ | flag _ | integer _ | number _ | text _ => rfl

/-- The variable for the key gives a section of its own. -/
theorem layOver_key (given : setting.asText? = some text) :
    layOver [] (loader.arranged .variables [("api.key".toList, setting)]) = .ok [keySection setting] := by
  rw [Loader.arranged, Layer.arranged_single (loader.order_perm .variables), arranged_of_asText? given]
  have written := Setting.writeNamed_pair rfl isSettingName_api isSettingName_key setting []
  rw [Setting.onto_of_asText? given] at written
  exact layOver_cons written []

theorem arranged_keySection (given : setting.asText? = some text) (source : Source) :
    loader.arranged source [keySection setting] = [keySection setting] := by
  have permutes := loader.order_perm source
  have members := permutes ["api".toList] [("key".toList, setting)]
  rw [Loader.arranged, keySection, Layer.arranged_single permutes, Setting.arranged,
    Setting.arrangedAll, Setting.arrangedAll, arranged_of_asText? given,
    List.perm_singleton.mp members]

theorem layOver_keySection (given : setting.asText? = some text)
    (composed : Setting.Composed "api".toList base) :
    layOver base [keySection setting] = .ok (Entries.write "api".toList
      (.table (Entries.write "key".toList setting (Setting.ofSection "api".toList base))) base) := by
  have written := Setting.writeNamed_single isSettingName_api (.table [("key".toList, setting)]) base
  rw [composed.onto_table, Setting.addAll, Setting.addAll, isSettingName_key.lower_eq,
    Setting.onto_of_asText? given] at written
  exact layOver_cons written []

/-- The section changes the key alone. -/
theorem ofTable_keySection (given : setting.asText? = some text)
    (standing : layOver [] (loader.arranged .standard standardLayer) = .ok base) :
    ofTable (Entries.write "api".toList
        (.table (Entries.write "key".toList setting (Setting.ofSection "api".toList base))) base) =
      .ok { standard with apiKey := some text } := by
  have optional : setting.asOptionalText? = some (some text) := by
    cases setting with
    | flag _ | integer _ | number _ | text _ =>
      cases given
      rfl
    | null | list _ | table _ => cases given
  have usual (field : Field) := composes_standardLayer field standing
  refine (ofTable_eq_ok_iff fun field setting found => ?_).mpr fun field => ?_
  · rw [Entries.find?_write] at found
    split at found
    · exact ⟨_, (Option.some.inj found).symm⟩
    · exact (usual field).1.exists_table setting found
  · rw [Setting.ofSection_write]
    by_cases same : field.group = "api".toList
    · obtain rfl : field = .apiKey := by cases field <;> first | rfl | (absurd same; decide)
      rw [if_pos same.symm, Setting.members, Entries.find?_write, if_pos (by rfl)]
      exact optional
    · rw [if_neg (Ne.symm same), (usual field).2]
      cases field with
      | apiKey => exact absurd rfl same
      | host | port | origins | bodyLimit | budget | logsJson => rfl

/-- Where a variable gives the key and nothing else is given, the other settings are the standard
ones. -/
theorem load_key (loader : Loader) (directory : Place) (key : Text) :
    loader.load [("API__KEY".toList, key)] ⟨[], directory⟩ =
      .ok { standard with apiKey := some (Setting.respelled key) } := by
  have shown := Setting.asText?_ofText key
  have nothing (source : Source) : layOver [] (loader.arranged source []) = .ok [] := by
    rw [Loader.arranged, Layer.arranged_nil (loader.order_perm source)]
    rfl
  obtain ⟨base, standing⟩ := exists_layOver_standardLayer loader
  have composed := (composes_standardLayer .apiKey standing).1
  simp only [Loader.load, environment_of_no_files, loader.fileLayer_of_no_files, nothing,
    variableLayer_key, layOver_key shown, standing, arranged_keySection shown,
    layOver_keySection shown composed, ofTable_keySection shown standing, bind, Except.bind]

/-- A key that a variable gives is the key that clients must send, exactly if it keeps its spelling.
One with a character that no numeral has does so, unless it is one of a few words. -/
theorem load_key_kept_iff (loader : Loader) (directory : Place) (key : Text) :
    ∃ shown, loader.load [("API__KEY".toList, key)] ⟨[], directory⟩ =
        .ok { standard with apiKey := some shown } ∧
      (shown = key ↔ Setting.KeepsSpelling key) ∧
      ((∃ c ∈ key, Number.isNumeralChar c = false) → Text.lower key ∉ Setting.flagWords →
        Text.lowerAscii (Number.takeSign key).2 ∉ Setting.numberWords → shown = key) ∧
      ∀ request : Http.Request, request.headers.first? "x-api-key" = some key →
        key.all Http.isPlain = true →
        (Http.keyFailure? { standard with apiKey := some shown } request = none ↔
          Setting.KeepsSpelling key) := by
  refine ⟨_, load_key loader directory key, Setting.respelled_eq_self_iff, fun letter flag number => ?_,
    fun request sent plain => ?_⟩
  · exact Setting.respelled_eq_self_iff.mpr
      (Setting.keepsSpelling_of_not_isNumeralChar letter flag number)
  · rw [Http.keyFailure?_eq_none_iff rfl, Http.text?_of_first? sent plain, Option.some.injEq, eq_comm,
      Setting.respelled_eq_self_iff]

/-- Zeros before a number are lost. A client that sends the key as it was configured is refused, though
the same key is kept where a file gives it. -/
theorem load_key_loses_zeros :
    let key := "00123".toList
    let request : Http.Request := ⟨.get, "/api/v1/tags".toList, [("X-API-Key".toList, key)], []⟩
    let locked (shown : Text) : Settings := { standard with apiKey := some shown }
    let answered (settings : Settings) : Http.Response :=
      (Http.handle (Service.start settings ⟨0, 0⟩) ⟨⟨0, 0⟩, fun _ => ⟨0, by decide⟩⟩ request).1
    load [("API__KEY".toList, key)] [] = .ok (locked "123".toList) ∧
      (answered (locked "123".toList)).status = 401 ∧
      (answered (locked "123".toList)).body =
        .json ((Failure.unauthorized "Invalid API key".toList).toJson none) ∧
      (load [] [("config/default.json".toList, "⟨\"api\":⟨\"key\":\"00123\"⟩⟩".braced)]).toOption =
        some (locked key) ∧
      (answered (locked key)).status = 200 := by
  intro key request locked answered
  have spelled : Setting.respelled key = "123".toList := by decide +kernel
  have loaded := load_key Loader.plain ["work".toList] key
  rw [spelled] at loaded
  exact ⟨loaded, by decide +kernel, by rfl, by decide +kernel, by decide +kernel⟩

end Settings

end TagWeave
