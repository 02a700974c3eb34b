import TagWeave.Proofs.Catalogue.MapRefinement
import TagWeave.Proofs.Http.Refusal

/-! The meters of a service as accounts of what was done. Deeds are listed beside the service, without
a look at its meters, and every operation moves the meters by exactly the deed that it is. -/
namespace TagWeave

/-- What a service may do that its meters tell of. -/
inductive Deed where
  /-- A text was rendered that is no content of a stored template. -/
  | ran (report : Report)
  | rendered (report : Report)
  | created
  | updated
  | deleted
  | sampled

namespace Deed

def report? : Deed → Option Report
  | .ran report | .rendered report => some report
  | .created | .updated | .deleted | .sampled => none

def operation? : Deed → Option Operation
  | .rendered _ => some .render
  | .created => some .create
  | .updated => some .update
  | .deleted => some .delete
  | .ran _ | .sampled => none

/-- Deeds after which the number of templates is noted. -/
def gauges : Deed → Bool
  | .created | .deleted | .sampled => true
  | .ran _ | .rendered _ | .updated => false

def reports (deeds : List Deed) : List Report := deeds.filterMap report?

def count (operation : Operation) (deeds : List Deed) : Nat :=
  deeds.countP fun deed => deed.operation? = some operation

end Deed

def Report.countOutcome (outcome : Outcome) (reports : List Report) : Nat :=
  reports.countP fun report => report.outcome = outcome

def Report.totalIterations : List Report → Nat
  | [] => 0
  | report :: rest => report.iterations + totalIterations rest

def Meters.rendersTotal (meters : Meters) : Nat :=
  meters.renders .complete + meters.renders .unterminated + meters.renders .fixedPoint +
    meters.renders .budgetExhausted

def Meters.tell (meters : Meters) (deed : Deed) : Meters :=
  let meters := match deed.report? with
    | some report => meters.recordRun report
    | none => meters
  match deed.operation? with
  | some operation => meters.recordOperation operation
  | none => meters

structure Meters.CountsAs (meters other : Meters) : Prop where
  renders : meters.renders = other.renders
  operations : meters.operations = other.operations
  iterationSum : meters.iterationSum = other.iterationSum
  iterationCount : meters.iterationCount = other.iterationCount

@[simp] theorem Deed.reports_append (first second : List Deed) :
    reports (first ++ second) = reports first ++ reports second :=
  List.filterMap_append

@[simp] theorem Deed.count_append (operation : Operation) (first second : List Deed) :
    count operation (first ++ second) = count operation first + count operation second :=
  List.countP_append

@[simp] theorem Report.countOutcome_append (outcome : Outcome) (first second : List Report) :
    countOutcome outcome (first ++ second) =
      countOutcome outcome first + countOutcome outcome second :=
  List.countP_append

@[simp] theorem Report.totalIterations_append (first second : List Report) :
    totalIterations (first ++ second) = totalIterations first + totalIterations second := by
  induction first with
  | nil => simp [totalIterations]
  | cons report rest ih => simp [totalIterations, ih, Nat.add_assoc]

/-- Each report is counted under one outcome. -/
theorem Report.length_eq_countOutcome (reports : List Report) :
    reports.length = countOutcome .complete reports + countOutcome .unterminated reports +
      countOutcome .fixedPoint reports + countOutcome .budgetExhausted reports := by
  induction reports with
  | nil => rfl
  | cons report rest ih =>
    simp only [countOutcome] at ih
    simp only [countOutcome, List.length_cons, List.countP_cons, ih]
    cases report.outcome <;> simp <;> omega

/-- A template with an id is there once. -/
theorem Catalogue.size_delete {catalogue after : Catalogue} {id : Text}
    (deleted : catalogue.delete id = (.ok (), after)) : catalogue.size = after.size + 1 := by
  obtain ⟨⟨template, found⟩, rfl⟩ := delete_eq_ok_iff.mp deleted
  obtain ⟨member, same⟩ := mem_of_find? found
  have once : (catalogue.templates.map Template.id).count id = 1 :=
    List.count_eq_one_of_mem catalogue.distinct (List.mem_map.mpr ⟨template, member, same⟩)
  rw [List.count, List.countP_map, Function.comp_def] at once
  have parts := catalogue.templates.length_eq_countP_add_countP fun template => template.id == id
  rw [once, Nat.add_comm] at parts
  simp only [size, remove, ← List.countP_eq_length_filter, parts]
  simp only [bne, Bool.not_eq_true, Bool.decide_eq_false]

/-- The meters went from one service to another by some deeds: each was counted once, and under its
name. The gauge tells the number of templates if it did so before, or if a deed set it. -/
structure Service.Accounts (before : Service) (deeds : List Deed) (after : Service) : Prop where
  renders (outcome : Outcome) : after.meters.renders outcome =
    before.meters.renders outcome + Report.countOutcome outcome (Deed.reports deeds)
  runs : after.meters.iterationCount =
    before.meters.iterationCount + (Deed.reports deeds).length
  iterations : after.meters.iterationSum =
    before.meters.iterationSum + Report.totalIterations (Deed.reports deeds)
  operations (operation : Operation) : after.meters.operations operation =
    before.meters.operations operation + Deed.count operation deeds
  stored : before.catalogue.size + Deed.count .create deeds =
    Deed.count .delete deeds + after.catalogue.size
  gauge : (before.meters.templatesStored = before.catalogue.size ∨
    ∃ deed ∈ deeds, deed.gauges = true) → after.meters.templatesStored = after.catalogue.size

namespace Service

variable {service before middle after : Service} {functions : Functions} {draws : Draws}
  {now : Moment} {id text : Text} {store : Store} {template made changed : Template}
  {change : Template.Update} {report : Report} {first second : List Deed}

namespace Accounts

theorem refl (service : Service) : service.Accounts [] service where
  renders _ := rfl
  runs := rfl
  iterations := rfl
  operations _ := rfl
  stored := Nat.add_comm _ _
  gauge noted := by simpa using noted

theorem trans (early : before.Accounts first middle) (late : middle.Accounts second after) :
    before.Accounts (first ++ second) after where
  renders outcome := by
    rw [late.renders, early.renders, Deed.reports_append, Report.countOutcome_append, Nat.add_assoc]
  runs := by rw [late.runs, early.runs, Deed.reports_append, List.length_append, Nat.add_assoc]
  iterations := by
    rw [late.iterations, early.iterations, Deed.reports_append, Report.totalIterations_append,
      Nat.add_assoc]
  operations operation := by
    rw [late.operations, early.operations, Deed.count_append, Nat.add_assoc]
  stored := by
    have here := early.stored
    have further := late.stored
    simp only [Deed.count_append]
    omega
  gauge noted := by
    apply late.gauge
    rcases noted with told | ⟨deed, member, gauges⟩
    · exact .inl (early.gauge (.inl told))
    · rcases List.mem_append.mp member with former | latter
      · exact .inl (early.gauge (.inr ⟨deed, former, gauges⟩))
      · exact .inr ⟨deed, latter, gauges⟩

theorem rendersTotal (accounts : before.Accounts first after) :
    after.meters.rendersTotal = before.meters.rendersTotal + (Deed.reports first).length := by
  have parts := Report.length_eq_countOutcome (Deed.reports first)
  simp only [Meters.rendersTotal, accounts.renders]
  omega

end Accounts

theorem tell_renders (meters : Meters) (deed : Deed) (outcome : Outcome) :
    (meters.tell deed).renders outcome =
      meters.renders outcome + Report.countOutcome outcome (Deed.reports [deed]) := by
  have counted (report : Report) : (meters.recordRun report).renders outcome =
      meters.renders outcome + Report.countOutcome outcome [report] := by
    simp only [Meters.recordRun, Report.countOutcome, List.countP_singleton, decide_eq_true_eq]
    by_cases same : report.outcome = outcome
    · simp [same]
    · simp [same, Ne.symm same]
  cases deed with
  | ran report | rendered report => exact counted report
  | created | updated | deleted | sampled => rfl

theorem tell_operations (meters : Meters) (deed : Deed) (operation : Operation) :
    (meters.tell deed).operations operation =
      meters.operations operation + Deed.count operation [deed] := by
  cases deed <;> cases operation <;> rfl

/-- Counters that moved by one deed, a catalogue that changed with it, and a gauge that was not
forgotten are accounts of the deed. -/
theorem accounts_single {deed : Deed} (counted : after.meters.CountsAs (service.meters.tell deed))
    (stored : service.catalogue.size + Deed.count .create [deed] =
      Deed.count .delete [deed] + after.catalogue.size)
    (gauge : after.meters.templatesStored = after.catalogue.size ∨ deed.gauges = false ∧
      after.meters.templatesStored = service.meters.templatesStored ∧
      after.catalogue.size = service.catalogue.size) : service.Accounts [deed] after where
  renders outcome := by rw [counted.renders, tell_renders]
  runs := by
    rw [counted.iterationCount]
    cases deed <;> rfl
  iterations := by
    rw [counted.iterationSum]
    cases deed <;> rfl
  operations operation := by rw [counted.operations, tell_operations]
  stored := stored
  gauge noted := by
    rcases gauge with told | ⟨silent, same, size⟩
    · exact told
    · rcases noted with told | ⟨_, member, gauges⟩
      · rw [same, size, told]
      · cases List.mem_singleton.mp member
        rw [silent] at gauges
        cases gauges

theorem accounts_run : service.Accounts [.ran (service.run functions draws text store).1]
    (service.run functions draws text store).2 :=
  accounts_single ⟨rfl, rfl, rfl, rfl⟩ (Nat.add_comm _ _) (.inr ⟨rfl, rfl, rfl⟩)

theorem accounts_sample : service.Accounts [.sampled] service.sample :=
  accounts_single ⟨rfl, rfl, rfl, rfl⟩ (Nat.add_comm _ _) (.inl rfl)

theorem accounts_tryRender
    (rendered_ok : service.tryRender functions draws id store = (.ok report, after)) :
    service.Accounts [.rendered report] after := by
  obtain ⟨template, -, rfl, rfl⟩ := tryRender_eq_ok_iff.mp rendered_ok
  exact accounts_single ⟨rfl, rfl, rfl, rfl⟩ (Nat.add_comm _ _) (.inr ⟨rfl, rfl, rfl⟩)

theorem accounts_tryCreate (made_ok : service.tryCreate template = (.ok made, after)) :
    service.Accounts [.created] after := by
  obtain ⟨done, counted⟩ := settle_eq_ok_iff.mp made_ok
  have size : after.catalogue.size = service.catalogue.size + 1 := by
    obtain ⟨_, _, -, grown⟩ := Catalogue.create_eq_ok_iff.mp done
    rw [grown]
    exact List.length_append
  rw [done] at counted
  rw [counted]
  refine accounts_single ⟨rfl, rfl, rfl, rfl⟩ ?_ (.inl rfl)
  simp [size, Deed.count, Deed.operation?]

theorem accounts_tryUpdate (changed_ok : service.tryUpdate now id change = (.ok changed, after)) :
    service.Accounts [.updated] after := by
  obtain ⟨done, counted⟩ := settle_eq_ok_iff.mp changed_ok
  have size : after.catalogue.size = service.catalogue.size := by
    obtain ⟨template, -, -, _, replaced⟩ := Catalogue.update_eq_ok_iff.mp done
    rw [replaced]
    exact List.length_map _
  rw [counted]
  refine accounts_single ⟨rfl, rfl, rfl, rfl⟩ ?_ (.inr ⟨rfl, rfl, size⟩)
  simp [size, Deed.count, Deed.operation?]

theorem accounts_tryDelete (deleted_ok : service.tryDelete id = (.ok (), after)) :
    service.Accounts [.deleted] after := by
  obtain ⟨done, counted⟩ := settle_eq_ok_iff.mp deleted_ok
  have size := Catalogue.size_delete done
  rw [done] at counted
  rw [counted]
  refine accounts_single ⟨rfl, rfl, rfl, rfl⟩ ?_ (.inl rfl)
  simp [size, Deed.count, Deed.operation?, Nat.add_comm]

end Service

/-- What an operation on the catalogue is, by its result. One that is refused is no deed. -/
def Catalogue.deed? : Catalogue.Request → Catalogue.Result → Option Deed
  | .create _, .ok _ => some .created
  | .update _ _ _, .ok _ => some .updated
  | .delete _, .ok _ => some .deleted
  | .render _ _ _, .ok (.rendered report) => some (.rendered report)
  | _, _ => none

namespace Service

variable {service : Service} {functions : Functions}

/-- An outcome that is answered has accounts, if what is granted has them and what is refused left the
service as it was. -/
theorem accounts_answering {α : Type} {outcome : Except Refusal α × Service}
    {answer : α → Catalogue.Answer} {request : Catalogue.Request}
    (kept : KeptOnError service outcome)
    (granted : ∀ given after, outcome = (.ok given, after) →
      service.Accounts (Catalogue.deed? request (.ok (answer given))).toList after) :
    service.Accounts (Catalogue.deed? request (answering answer outcome).1).toList
      (answering answer outcome).2 := by
  obtain ⟨refusal | given, after⟩ := outcome
  · obtain rfl : after = service := kept refusal rfl
    cases request <;> exact .refl after
  · exact granted given after rfl

theorem accounts_carryOut (functions : Functions) (service : Service) (request : Catalogue.Request) :
    service.Accounts (Catalogue.deed? request (service.carryOut functions request).1).toList
      (service.carryOut functions request).2 := by
  cases request with
  | create template =>
    exact accounts_answering (service.tryCreate_refused template) fun _ _ => accounts_tryCreate
  | update now id change =>
    exact accounts_answering (service.tryUpdate_refused now id change) fun _ _ => accounts_tryUpdate
  | delete id =>
    exact accounts_answering (service.tryDelete_refused id) fun _ _ => accounts_tryDelete
  | render draws id store =>
    exact accounts_answering (service.tryRender_refused functions draws id store) fun _ _ =>
      accounts_tryRender
  | get id =>
    simp only [carryOut]
    cases service.catalogue.get id <;> exact .refl service
  | list | contains _ | size => exact .refl service

theorem answering_refused {α : Type} {outcome : Except Refusal α × Service}
    {answer : α → Catalogue.Answer} (kept : KeptOnError service outcome) :
    KeptOnError service (answering answer outcome) := by
  obtain ⟨refusal | given, after⟩ := outcome
  · exact fun _ _ => kept refusal rfl
  · rintro _ ⟨⟩

theorem carryOut_refused (functions : Functions) (service : Service) (request : Catalogue.Request) :
    KeptOnError service (service.carryOut functions request) := by
  cases request with
  | create template => exact answering_refused (service.tryCreate_refused template)
  | update now id change => exact answering_refused (service.tryUpdate_refused now id change)
  | delete id => exact answering_refused (service.tryDelete_refused id)
  | render draws id store =>
    exact answering_refused (service.tryRender_refused functions draws id store)
  | get _ | list | contains _ | size => exact fun _ _ => rfl

end Service

end TagWeave
