import TagWeave.Catalogue.Basic
import TagWeave.Engine.Workshop
import TagWeave.Leveling.Announcement
import TagWeave.Meters
import TagWeave.Settings.Basic

/-! The service keeps a catalogue, one renderer and the meters. Each operation that may be refused
gives its result and the service after it. -/
namespace TagWeave

structure Occasion where
  now : Moment
  draws : Draws

structure Service where
  settings : Settings
  started : Moment
  workshop : Workshop
  renderer : Renderer
  catalogue : Catalogue
  meters : Meters

namespace Service

def start (settings : Settings) (now : Moment) : Service :=
  let (renderer, workshop) := Workshop.empty.newRenderer .standard
  ⟨settings, now, workshop, { renderer with budget := settings.budget }, .empty, .zero⟩

def registry (service : Service) : Registry := service.workshop.registryOf service.renderer

def uptime (service : Service) (now : Moment) : Nat := (now.seconds - service.started.seconds).toNat

def run (service : Service) (functions : Functions) (draws : Draws) (text : Text) (store : Store) :
    Report × Service :=
  let report := (service.workshop.run functions service.renderer draws text store).1
  (report, { service with meters := service.meters.recordRun report })

def announce (service : Service) (functions : Functions) (draws : Draws) (template : Option Text)
    (announcement : Announcement) : Report × Service :=
  service.run functions draws (Announcement.messageOf template) announcement.toStore

/-- Settle an operation on the catalogue: only what was granted is counted. -/
def settle {α : Type} (service : Service) (outcome : Except Refusal α × Catalogue)
    (counted : Meters) : Except Refusal α × Service :=
  match outcome with
  | (.error refusal, catalogue) => (.error refusal, { service with catalogue := catalogue })
  | (.ok given, catalogue) =>
    (.ok given, { service with catalogue := catalogue, meters := counted })

def tryCreate (service : Service) (template : Template) : Except Refusal Template × Service :=
  let outcome := service.catalogue.create template
  service.settle outcome
    ((service.meters.recordOperation .create).gaugeTemplates outcome.2.size)

def tryUpdate (service : Service) (now : Moment) (id : Text) (change : Template.Update) :
    Except Refusal Template × Service :=
  service.settle (service.catalogue.update now id change)
    (service.meters.recordOperation .update)

def tryDelete (service : Service) (id : Text) : Except Refusal Unit × Service :=
  let outcome := service.catalogue.delete id
  service.settle outcome
    ((service.meters.recordOperation .delete).gaugeTemplates outcome.2.size)

def tryRender (service : Service) (functions : Functions) (draws : Draws) (id : Text)
    (store : Store) : Except Refusal Report × Service :=
  match service.catalogue.get id with
  | .error refusal => (.error refusal, service)
  | .ok template =>
    let (report, service) := service.run functions draws template.content store
    (.ok report, { service with meters := service.meters.recordOperation .render })

def sample (service : Service) : Service :=
  { service with meters :=
      (service.meters.gaugeTags service.registry.size).gaugeTemplates service.catalogue.size }

/-- What an operation gives and the service after it, or the refusal alone: for a caller that goes on
with its own service then. -/
def granted {α : Type} : Except Refusal α × Service → Except Refusal (α × Service)
  | (.error refusal, _) => .error refusal
  | (.ok given, service) => .ok (given, service)

def create (service : Service) (template : Template) : Except Refusal (Template × Service) :=
  granted (service.tryCreate template)

def update (service : Service) (now : Moment) (id : Text) (change : Template.Update) :
    Except Refusal (Template × Service) :=
  granted (service.tryUpdate now id change)

def delete (service : Service) (id : Text) : Except Refusal Service :=
  (granted (service.tryDelete id)).map Prod.snd

def renderStored (service : Service) (functions : Functions) (draws : Draws) (id : Text)
    (store : Store) : Except Refusal (Report × Service) :=
  granted (service.tryRender functions draws id store)

end Service

end TagWeave
