import TagWeave.Proofs.Catalogue.Keeping
import TagWeave.Service.Basic

/-! The operations of a service. What is granted is an operation of the catalogue that was counted,
and what is refused leaves the whole service as it was. -/
namespace TagWeave

namespace Service

variable {α : Type} {service after : Service} {outcome : Except Refusal α × Catalogue}
  {counted : Meters} {given : α} {functions : Functions} {draws : Draws} {now : Moment} {id : Text}
  {store : Store} {template made changed : Template} {change : Template.Update} {report : Report}

theorem settle_eq_ok_iff :
    service.settle outcome counted = (.ok given, after) ↔
      outcome = (.ok given, after.catalogue) ∧
        after = { service with catalogue := after.catalogue, meters := counted } := by
  obtain ⟨_ | value, catalogue⟩ := outcome
  · simp [settle]
  · simp only [settle, Prod.mk.injEq, Except.ok.injEq]
    constructor
    · rintro ⟨rfl, rfl⟩
      exact ⟨⟨rfl, rfl⟩, rfl⟩
    · rintro ⟨⟨rfl, rfl⟩, same⟩
      exact ⟨rfl, same.symm⟩

theorem settle_refused (kept : KeptOnError service.catalogue outcome) :
    KeptOnError service (service.settle outcome counted) := by
  obtain ⟨refusal | given, catalogue⟩ := outcome
  · rintro - -
    obtain rfl : catalogue = service.catalogue := kept refusal rfl
    rfl
  · rintro _ ⟨⟩

theorem tryCreate_refused (service : Service) (template : Template) :
    KeptOnError service (service.tryCreate template) :=
  settle_refused (service.catalogue.create_refused template)

theorem tryUpdate_refused (service : Service) (now : Moment) (id : Text)
    (change : Template.Update) : KeptOnError service (service.tryUpdate now id change) :=
  settle_refused (service.catalogue.update_refused now id change)

theorem tryDelete_refused (service : Service) (id : Text) :
    KeptOnError service (service.tryDelete id) :=
  settle_refused (service.catalogue.delete_refused id)

theorem catalogue_tryCreate (made_ok : service.tryCreate template = (.ok made, after)) :
    service.catalogue.create template = (.ok made, after.catalogue) :=
  (settle_eq_ok_iff.mp made_ok).1

theorem catalogue_tryUpdate (changed_ok : service.tryUpdate now id change = (.ok changed, after)) :
    service.catalogue.update now id change = (.ok changed, after.catalogue) :=
  (settle_eq_ok_iff.mp changed_ok).1

theorem catalogue_tryDelete (deleted_ok : service.tryDelete id = (.ok (), after)) :
    service.catalogue.delete id = (.ok (), after.catalogue) :=
  (settle_eq_ok_iff.mp deleted_ok).1

theorem tryRender_eq_ok_iff :
    service.tryRender functions draws id store = (.ok report, after) ↔
      ∃ template, service.catalogue.get id = .ok template ∧
        report = (service.run functions draws template.content store).1 ∧
        after = { (service.run functions draws template.content store).2 with
          meters := (service.run functions draws template.content store).2.meters.recordOperation
            .render } := by
  unfold tryRender
  cases service.catalogue.get id with
  | error refusal => simp
  | ok template => simp [eq_comm]

theorem tryRender_refused (service : Service) (functions : Functions) (draws : Draws) (id : Text)
    (store : Store) : KeptOnError service (service.tryRender functions draws id store) := by
  intro refusal refused
  unfold tryRender at refused ⊢
  cases found : service.catalogue.get id with
  | error refusal => rfl
  | ok template =>
    rw [found] at refused
    cases refused

end Service

end TagWeave
