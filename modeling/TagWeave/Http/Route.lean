import TagWeave.Http.Message
import TagWeave.Json.Lexeme

/-! Routes, and what each method asks of them. A path matches exactly or not at all. -/
namespace TagWeave.Http

inductive Route where
  | health
  | metrics
  | render
  | tags
  | announce
  | templates
  /-- One template, its id still with its escapes. -/
  | template (id : Text)
  | templateRender (id : Text)
  deriving DecidableEq, Repr

inductive Endpoint where
  | health
  | metrics
  | render
  | tags
  | announce
  | listTemplates
  | createTemplate
  | getTemplate (id : Text)
  | updateTemplate (id : Text)
  | deleteTemplate (id : Text)
  | renderTemplate (id : Text)
  deriving DecidableEq, Repr

namespace Route

def ofPath? (path : Text) : Option Route :=
  match Text.pieces '/' path with
  | [] :: first :: rest =>
    if rest = [] ∧ first = "health".toList then some .health
    else if rest = [] ∧ first = "metrics".toList then some .metrics
    else if first ≠ "api".toList then none
    else match rest with
      | [version, part] =>
        if version ≠ "v1".toList then none
        else if part = "render".toList then some .render
        else if part = "tags".toList then some .tags
        else if part = "templates".toList then some .templates
        else none
      | [version, part, last] =>
        if version ≠ "v1".toList then none
        else if part = "level-up".toList ∧ last = "render".toList then some .announce
        else if part = "templates".toList ∧ last ≠ [] then some (.template last)
        else none
      | [version, part, id, last] =>
        if version = "v1".toList ∧ part = "templates".toList ∧ id ≠ [] ∧ last = "render".toList then
          some (.templateRender id)
        else none
      | _ => none
  | _ => none

def endpoint? : Route → Method → Option Endpoint
  | .health, .get | .health, .head => some .health
  | .metrics, .get | .metrics, .head => some .metrics
  | .render, .post => some .render
  | .tags, .get | .tags, .head => some .tags
  | .announce, .post => some .announce
  | .templates, .get | .templates, .head => some .listTemplates
  | .templates, .post => some .createTemplate
  | .template id, .get | .template id, .head => some (.getTemplate id)
  | .template id, .put => some (.updateTemplate id)
  | .template id, .delete => some (.deleteTemplate id)
  | .templateRender id, .post => some (.renderTemplate id)
  | _, _ => none

def allowed (route : Route) : Text :=
  Text.joined [','] ((Method.listed.filter fun method => (route.endpoint? method).isSome).map
    Method.name)

def isGuarded : Route → Bool
  | .health | .metrics => false
  | _ => true

end Route

/-- The bytes of a part of a path, its escapes resolved. What is no escape stays as it is. -/
def unescapedBytes : Text → List UInt8
  | '%' :: high :: low :: rest =>
    match Lexeme.hexValue? high, Lexeme.hexValue? low with
    | some high, some low => UInt8.ofNat (16 * high + low) :: unescapedBytes rest
    | _, _ => '%'.toUInt8 :: unescapedBytes (high :: low :: rest)
  | c :: rest => String.utf8EncodeChar c ++ unescapedBytes rest
  | [] => []

/-- A part of a path with its escapes resolved, unless they spell no text. -/
def unescaped? (part : Text) : Option Text :=
  (String.fromUTF8? ⟨(unescapedBytes part).toArray⟩).map String.toList

end TagWeave.Http
