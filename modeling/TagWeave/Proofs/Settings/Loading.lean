import TagWeave.Proofs.Settings.Ordering
import TagWeave.Proofs.Settings.Variables
import TagWeave.Proofs.Steps

/-! Which settings are loaded. Variables, the file of the mode and the default file are layers over the
standard settings, and each field is by itself what they decide on for it. -/
namespace TagWeave.Settings

inductive Field where
  | host
  | port
  | origins
  | bodyLimit
  | apiKey
  | budget
  | logsJson
  deriving DecidableEq, Repr

namespace Field

def group : Field → Text
  | .host | .port | .origins | .bodyLimit => "server".toList
  | .apiKey => "api".toList
  | .budget => "parser".toList
  | .logsJson => "logging".toList

def name : Field → Text
  | .host => "host".toList
  | .port => "port".toList
  | .origins => "cors_origins".toList
  | .bodyLimit => "body_limit_bytes".toList
  | .apiKey => "key".toList
  | .budget => "max_iterations".toList
  | .logsJson => "json".toList

def all : List Field := [.host, .port, .origins, .bodyLimit, .apiKey, .budget, .logsJson]

theorem mem_all (field : Field) : field ∈ all := by cases field <;> decide

/-- Whether a field is as it is in the standard settings. -/
def IsStandard (settings : Settings) : Field → Prop
  | .host => settings.host = standard.host
  | .port => settings.port = standard.port
  | .origins => settings.origins = standard.origins
  | .bodyLimit => settings.bodyLimit = standard.bodyLimit
  | .apiKey => settings.apiKey = standard.apiKey
  | .budget => settings.budget = standard.budget
  | .logsJson => settings.logsJson = standard.logsJson

/-- Whether a field is what a setting gives for it. -/
def Holds (settings : Settings) (given : Setting) : Field → Prop
  | .host => given.asText? = some settings.host
  | .port => portOf? given = some settings.port
  | .origins => given.asTexts? = some settings.origins
  | .bodyLimit => given.asNatural? = some settings.bodyLimit
  | .apiKey => given.asOptionalText? = some settings.apiKey
  | .budget => given.asNatural? = some settings.budget
  | .logsJson => given.asFlag? = some settings.logsJson

/-- Whether a field is what a setting gives for it, or standard if there is no setting. -/
def Reads (settings : Settings) (field : Field) : Option Setting → Prop
  | none => field.IsStandard settings
  | some given => field.Holds settings given

/-- Whether a field is what the layers decide on for it. If that is nothing, or an object without members,
it is standard. -/
def Takes (settings : Settings) (field : Field) : Option Setting → Prop
  | none | some (.table []) => field.IsStandard settings
  | some given => field.Holds settings given

end Field

variable {layer : Layer} {field : Field} {settings : Settings} {loader : Loader} {known : Variables}
  {disk : Disk} {rows table base given final : Entries Setting}

theorem section?_eq {name : String}
    (tabled : ∀ setting ∈ Entries.find? name.toList table, ∃ members, setting = .table members) :
    (section? name table) = .ok (.table (Setting.ofSection name.toList table)) := by
  unfold section? Setting.ofSection
  cases found : Entries.find? name.toList table with
  | none => rfl
  | some setting =>
    obtain ⟨members, rfl⟩ := tabled setting found
    rfl

theorem setting_eq_ok_iff {α : Type} {name : String} {use : Setting → Option α} {missing read : α} :
    Settings.setting rows name use missing = .ok read ↔
      match Entries.find? name.toList rows with
      | none => read = missing
      | some given => use given = some read := by
  unfold Settings.setting
  cases Entries.find? name.toList rows with
  | none => simp [eq_comm]
  | some given =>
    dsimp only
    cases use given <;> simp

/-- Settings are read from a table of sections exactly if each field is what its section gives for it. -/
theorem ofTable_eq_ok_iff
    (tabled : ∀ field : Field, ∀ setting ∈ Entries.find? field.group table,
      ∃ members, setting = .table members) :
    ofTable table = .ok settings ↔ ∀ field : Field,
      field.Reads settings (Entries.find? field.name (Setting.ofSection field.group table)) := by
  have server : section? "server" table = _ := section?_eq (tabled .host)
  have api : section? "api" table = _ := section?_eq (tabled .apiKey)
  have engine : section? "parser" table = _ := section?_eq (tabled .budget)
  have logging : section? "logging" table = _ := section?_eq (tabled .logsJson)
  simp only [ofTable, server, api, engine, logging, bind_eq_ok_iff, Except.ok.injEq, exists_eq_left',
    Bool.false_eq_true, if_false, setting_eq_ok_iff]
  constructor
  · rintro ⟨host, host_read, port, port_read, origins, origins_read, bodyLimit, bodyLimit_read, apiKey,
      apiKey_read, budget, budget_read, logsJson, logsJson_read, whole⟩ field
    cases whole
    cases field with
    | host => exact host_read
    | port => exact port_read
    | origins => exact origins_read
    | bodyLimit => exact bodyLimit_read
    | apiKey => exact apiKey_read
    | budget => exact budget_read
    | logsJson => exact logsJson_read
  · intro reads
    exact ⟨_, reads .host, _, reads .port, _, reads .origins, _, reads .bodyLimit, _, reads .apiKey, _,
      reads .budget, _, reads .logsJson, rfl⟩

theorem Field.isSettingName_group (field : Field) : field.group.IsSettingName := by
  cases field <;> decide

theorem standardLayer_objects (field : Field) :
    ∀ entry ∈ standardLayer, Setting.givesObject field.group entry = true := by
  have objects : standardLayer.all (Setting.givesObject field.group) = true := by
    cases field <;> decide +kernel
  exact List.all_eq_true.mp objects

/-- The standard layer gives the same for each field, in whatever order it is written. -/
theorem composes_standardLayer (field : Field)
    (done : layOver [] (loader.arranged .standard standardLayer) = .ok base) :
    Setting.Composed field.group base ∧
      Entries.find? field.name (Setting.ofSection field.group base) =
        Entries.find? field.name (Setting.ofSection field.group standardTable) := by
  have grouped := field.isSettingName_group
  have permutes := loader.order_perm .standard
  have once : standardLayer.givesOnce field.group field.name = true := by
    cases field <;> decide +kernel
  have objects := Layer.givesObject_of_arranged permutes (standardLayer_objects field)
  have arranged := composes_layOver grouped (Setting.composed_nil _) objects done
  have written := composes_layOver grouped (Setting.composed_nil _) (standardLayer_objects field)
    layOver_standardLayer
  have same := arranged.written field.name
  rw [Layer.writes_arranged permutes once, written.written] at same
  exact ⟨arranged.composed, (Option.some.inj same).symm⟩

theorem exists_layOver_standardLayer (loader : Loader) :
    ∃ base, layOver [] (loader.arranged .standard standardLayer) = .ok base := by
  have named : standardLayer.all (fun entry => (Step.ofName entry.1).all Step.isMember) = true := by
    decide +kernel
  have members : ∀ entry ∈ loader.arranged .standard standardLayer,
      (Step.ofName entry.1).all Step.isMember = true := by
    intro entry listed
    obtain ⟨first, there, rfl⟩ := Layer.exists_of_mem_arranged (loader.order_perm .standard) listed
    exact List.all_eq_true.mp named first there
  obtain ⟨base, written⟩ := Setting.exists_writeOver members []
  exact ⟨base, layOver_eq_ok_iff.mpr written⟩

theorem isStandard_of_reads (field : Field)
    (reads : field.Reads settings
      (Entries.find? field.name (Setting.ofSection field.group standardTable))) :
    field.IsStandard settings := by
  cases field with
  | host | port | bodyLimit | budget | logsJson => exact (Option.some.inj reads).symm
  | origins | apiKey => exact reads

theorem not_holds_table (members : List (Text × Setting)) (field : Field) :
    ¬ field.Holds settings (.table members) := by
  cases field <;> exact Option.some_ne_none _ ∘ Eq.symm

/-- A field of the settings that are read from a composed table over the standard one is what the
composed table gives for it. -/
theorem takes_of_layOver (composed : Setting.Composed field.group given)
    (standing : layOver [] (loader.arranged .standard standardLayer) = .ok base)
    (done : layOver base (loader.arranged .together given) = .ok final)
    (reads : field.Reads settings (Entries.find? field.name (Setting.ofSection field.group final))) :
    field.Takes settings (Entries.find? field.name (Setting.ofSection field.group given)) := by
  have grouped := field.isSettingName_group
  have permutes := loader.order_perm .together
  obtain ⟨base_composed, usual⟩ := composes_standardLayer field standing
  have objects := Layer.givesObject_of_arranged permutes (composed.givesObject grouped)
  have laid := (composes_layOver grouped base_composed objects done).written field.name
  have writes := composed.writes_eq grouped field.name
  cases found : Entries.find? field.name (Setting.ofSection field.group given) with
  | none =>
    rw [found] at writes
    rw [Layer.writes_arranged_eq_nil permutes writes] at laid
    rw [← Option.some.inj laid, usual] at reads
    exact isStandard_of_reads field reads
  | some setting =>
    rw [found] at writes
    obtain ⟨other, single, same⟩ := Layer.exists_writes_arranged permutes writes
    rw [single] at laid
    rw [← Option.some.inj laid] at reads
    cases setting with
    | null | flag _ | integer _ | number _ | text _ | list _ =>
      rw [Setting.eq_of_outline_eq same rfl] at reads
      exact reads
    | table members =>
      cases members with
      | cons member rest =>
        obtain ⟨first, later, rfl⟩ := Setting.exists_members_of_outline same
        exact absurd reads (not_holds_table _ field)
      | nil =>
        -- An object without members leaves the standard setting as it is, if there is one.
        rw [Setting.eq_of_outline_eq same rfl, usual] at reads
        cases present : Entries.find? field.name (Setting.ofSection field.group standardTable) with
        | none =>
          rw [present] at reads
          exact absurd reads (not_holds_table [] field)
        | some usual =>
          rw [present] at reads
          exact isStandard_of_reads field (present ▸ reads)

def dotEnv (known : Variables) (disk : Disk) : Entries Text :=
  ((disk.nearest? ".env".toList [] disk.directory).map known.fileBindings).getD []

/-- A variable in the file counts exactly if it is not known. -/
theorem find?_environment (known : Variables) (disk : Disk) (name : Text) :
    Entries.find? name (environment known disk) =
      (Entries.find? name known).or (Entries.find? name (dotEnv known disk)) := by
  unfold environment dotEnv
  cases disk.nearest? ".env".toList [] disk.directory with
  | none => exact (Option.or_none).symm
  | some file => exact known.find?_addFile file name

def givesObjects (layer : Layer) : Bool :=
  fields.all fun field => layer.all (Setting.givesObject field.1.name.toList)

theorem givesObject_of_givesObjects (objects : givesObjects layer = true) (field : Field) :
    ∀ entry ∈ layer, Setting.givesObject field.group entry = true := by
  simp only [givesObjects, fields, List.all_cons, List.all_nil, Bool.and_true, Bool.and_eq_true]
    at objects
  obtain ⟨server, api, engine, logging⟩ := objects
  apply List.all_eq_true.mp
  cases field with
  | host | port | origins | bodyLimit => exact server
  | apiKey => exact api
  | budget => exact engine
  | logsJson => exact logging

theorem arranged_objects {source : Source} (objects : givesObjects layer = true) (field : Field) :
    ∀ entry ∈ loader.arranged source layer, Setting.givesObject field.group entry = true :=
  Layer.givesObject_of_arranged (loader.order_perm source) (givesObject_of_givesObjects objects field)

/-- Settings come from four layers: the variables, to which a file adds those that are not known; the file
of the mode, which the variables choose; the default file; and the standard settings. Where the layers
give every section as an object, each field is what the layers decide on for it, whatever they give for
the others. The order in which a layer is taken matters for a field only if the layer gives it more than
once. -/
theorem load_decides (loaded : loader.load known disk = .ok settings) :
    (∀ name, Entries.find? name (environment known disk) =
      (Entries.find? name known).or (Entries.find? name (dotEnv known disk))) ∧
    ∃ defaults mode,
      loader.fileLayer disk "config/default".toList = .ok defaults ∧
      loader.fileLayer disk ("config/".toList ++
        (Entries.find? "RUN_MODE".toList (environment known disk)).getD "development".toList) =
          .ok mode ∧
      let layers := [(Source.variables, variableLayer (environment known disk)), (.modeFile, mode),
        (.defaultFile, defaults)]
      (∀ layer ∈ layers, givesObjects layer.2 = true) →
        ∀ field : Field, ∃ value, field.Takes settings value ∧
          (∀ decided, Layer.Decided field.group field.name
            (layers.map fun layer => loader.arranged layer.1 layer.2) decided ↔ decided = value) ∧
          ((∀ layer ∈ layers, layer.2.givesOnce field.group field.name = true) →
            ∀ decided, Layer.Decided field.group field.name (layers.map Prod.snd) decided ↔
              decided = value) := by
  refine ⟨find?_environment known disk, ?_⟩
  simp only [Loader.load, bind_eq_ok_iff] at loaded
  obtain ⟨defaults, defaults_read, first, first_done, mode, mode_read, second, second_done, third,
    third_done, base, base_done, final, final_done, read⟩ := loaded
  refine ⟨defaults, mode, defaults_read, mode_read, fun objects field => ?_⟩
  simp only [List.forall_mem_cons] at objects
  obtain ⟨variables_objects, mode_objects, defaults_objects, -⟩ := objects
  -- Each given layer comes over the ones before it; the standard table is put under them at the end.
  have layered (field : Field) : Layered field.group
      [loader.arranged .variables (variableLayer (environment known disk)),
        loader.arranged .modeFile mode, loader.arranged .defaultFile defaults] third :=
    have grouped := field.isSettingName_group
    (((layered_nil field.group).extend grouped (arranged_objects defaults_objects field)
      first_done).extend grouped (arranged_objects mode_objects field) second_done).extend
        grouped (arranged_objects variables_objects field) third_done
  have tabled (field : Field) : ∀ setting ∈ Entries.find? field.group final,
      ∃ members, setting = .table members :=
    have grouped := field.isSettingName_group
    have objects := Layer.givesObject_of_arranged (loader.order_perm .together)
      ((layered field).composed.givesObject grouped)
    (composes_layOver grouped (composes_standardLayer field base_done).1 objects
      final_done).composed.exists_table
  have decided := (layered field).decided field.name
  have unique := Layer.decided_iff decided
  refine ⟨_, takes_of_layOver (layered field).composed base_done final_done
    ((ofTable_eq_ok_iff tabled).mp read field), unique, fun once => ?_⟩
  simp only [List.forall_mem_cons] at once
  obtain ⟨variables_once, mode_once, defaults_once, -⟩ := once
  refine Layer.decided_iff (decided.congr (.cons ?_ (.cons ?_ (.cons ?_ .nil))))
  · exact Layer.writes_arranged (loader.order_perm .variables) variables_once
  · exact Layer.writes_arranged (loader.order_perm .modeFile) mode_once
  · exact Layer.writes_arranged (loader.order_perm .defaultFile) defaults_once

/-- The file `.env` stands above the working directory. It chooses the mode and adds a key, but it does
not change the port. Host, port and origins come from three different layers, and the file of the mode is
not JSON. -/
theorem load_decides_test_mode :
    let host : Layer := [("server".toList, .table [("host".toList, .text "c".toList)])]
    let toml := "[server]\nhost = 'c'\n".toList
    let loader : Loader :=
      { parse format content := if format = .toml ∧ content = toml then some host else none
        tried := Format.all
        order _ _ members := members.reverse
        tried_perm := .refl _
        order_perm _ _ members := members.reverse_perm }
    let known : Variables := [("SERVER__PORT".toList, "9000".toList)]
    let disk : Disk :=
      ⟨[(["srv".toList, ".env".toList], "SERVER__PORT=1\nRUN_MODE=test\nAPI__KEY=secret\n".toList),
        (["srv".toList, "app".toList, "config".toList, "default.json".toList],
          "⟨\"server\":⟨\"host\":\"a\",\"cors_origins\":[\"b\"]⟩⟩".braced),
        (["srv".toList, "app".toList, "config".toList, "test.toml".toList], toml)],
        ["srv".toList, "app".toList]⟩
    let settings : Settings :=
      { standard with
        host := "c".toList, port := 9000, origins := ["b".toList], apiKey := some "secret".toList }
    loader.load known disk = .ok settings ∧ ∃ defaults mode,
      loader.fileLayer disk "config/default".toList = .ok defaults ∧
      loader.fileLayer disk "config/test".toList = .ok mode ∧
      ∀ field : Field, ∃ value, field.Takes settings value ∧
        ∀ decided, Layer.Decided field.group field.name
          [variableLayer (environment known disk), mode, defaults] decided ↔ decided = value := by
  intro host toml loader known disk settings
  have loaded : loader.load known disk = .ok settings := by decide +kernel
  have chosen : Entries.find? "RUN_MODE".toList (environment known disk) = some "test".toList := by
    decide +kernel
  -- Each layer gives every section as an object, and every field once.
  let plain (layer : Layer) : Bool :=
    givesObjects layer && Field.all.all fun field => layer.givesOnce field.group field.name
  have variables_plain : plain (variableLayer (environment known disk)) = true := by decide +kernel
  have defaults_plain :
      (loader.fileLayer disk "config/default".toList).toOption.all plain = true := by decide +kernel
  have mode_plain :
      (loader.fileLayer disk "config/test".toList).toOption.all plain = true := by decide +kernel
  obtain ⟨-, defaults, mode, defaults_read, mode_read, decides⟩ := load_decides loaded
  rw [chosen] at mode_read
  change loader.fileLayer disk "config/test".toList = .ok mode at mode_read
  rw [defaults_read] at defaults_plain
  rw [mode_read] at mode_plain
  refine ⟨loaded, defaults, mode, defaults_read, mode_read, fun field => ?_⟩
  obtain ⟨variables_objects, variables_once⟩ := Bool.and_eq_true_iff.mp variables_plain
  obtain ⟨mode_objects, mode_once⟩ := Bool.and_eq_true_iff.mp mode_plain
  obtain ⟨defaults_objects, defaults_once⟩ := Bool.and_eq_true_iff.mp defaults_plain
  have once {layer : Layer}
      (all : Field.all.all (fun field => layer.givesOnce field.group field.name) = true) :
      layer.givesOnce field.group field.name = true := List.all_eq_true.mp all field field.mem_all
  obtain ⟨value, takes, -, decided⟩ := decides (by
    simp only [List.forall_mem_cons]
    exact ⟨variables_objects, mode_objects, defaults_objects, nofun⟩) field
  refine ⟨value, takes, decided ?_⟩
  simp only [List.forall_mem_cons]
  exact ⟨once variables_once, once mode_once, once defaults_once, nofun⟩

/-- A layer need not set a field as a whole. A variable for the first origin changes that origin alone: it
does not hide the others of the default file, though by itself it gives a list of one. An object without
members hides nothing. Where there is a variable for the list too, their order decides. -/
theorem load_mixes_layers :
    let first : Variables := [("SERVER__CORS_ORIGINS[0]".toList, "https://b".toList)]
    let both : Variables :=
      ("SERVER__CORS_ORIGINS".toList, "https://a,https://c".toList) :: first
    let listed : Entries Text := [("config/default.json".toList,
      "⟨\"server\":⟨\"cors_origins\":[\"https://a\",\"https://c\"]⟩⟩".braced)]
    let emptied : Entries Text :=
      [("config/default.json".toList, "⟨\"server\":⟨\"host\":\"a\"⟩⟩".braced),
        ("config/development.json".toList, "⟨\"server\":⟨\"host\":⟨⟩⟩⟩".braced)]
    let backward : Loader :=
      { Loader.plain with
        order _ _ members := members.reverse
        order_perm _ _ members := members.reverse_perm }
    let loaded (loader : Loader) (known : Variables) (files : Entries Text) :=
      (loader.load known (.ofPaths files)).toOption
    let objects (files : Entries Text) (path : String) :=
      (Loader.plain.fileLayer (.ofPaths files) path.toList).toOption.all givesObjects
    (givesObjects (variableLayer both) = true ∧ objects listed "config/default" = true ∧
      objects emptied "config/default" = true ∧ objects emptied "config/development" = true) ∧
    ((loaded .plain first []).map origins = some ["https://b".toList] ∧
      (loaded .plain [] listed).map origins = some ["https://a".toList, "https://c".toList] ∧
      (loaded .plain first listed).map origins = some ["https://b".toList, "https://c".toList]) ∧
    (loaded .plain [] emptied).map host = some "a".toList ∧
    (loaded .plain both []).map origins = some ["https://b".toList, "https://c".toList] ∧
      (loaded backward both []).map origins = some ["https://a".toList, "https://c".toList] := by
  decide +kernel

end TagWeave.Settings
