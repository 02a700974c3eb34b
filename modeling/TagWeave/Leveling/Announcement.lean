import TagWeave.Engine.Workshop
import TagWeave.Json.Shape
import TagWeave.Leveling.Curve

/-! Announcements of a new level. The message is a template over the member, the server, the reward
and the level. -/
namespace TagWeave

structure Announcement.User where
  id : Text
  mention : Text
  username : Text
  avatar : Option Text
  deriving DecidableEq, Repr

structure Announcement.Server where
  id : Text
  name : Text
  icon : Option Text
  owner : Text
  members : Nat
  deriving DecidableEq, Repr

structure Announcement.Reward where
  id : Text
  name : Text
  mention : Text
  deriving DecidableEq, Repr

structure Announcement where
  user : Announcement.User
  server : Announcement.Server
  reward : Option Announcement.Reward
  level : Nat
  deriving DecidableEq, Repr

namespace Announcement

def defaultMessage : Text :=
  "GGs ⟨user:mention⟩! You have leveled up to **Level ⟨level⟩**.".braced

def oldLevel (announcement : Announcement) : Nat := announcement.level - 1

private def textEntry (name : String) (text : Text) : Text × Value := (name.toList, .text text)

private def optionalEntry (name : String) (text : Option Text) : List (Text × Value) :=
  text.toList.map fun text => textEntry name text

def User.toValue (user : User) : Value :=
  .object ([textEntry "id" user.id, textEntry "mention" user.mention,
    textEntry "username" user.username] ++ optionalEntry "avatarURL" user.avatar)

def Server.toValue (server : Server) : Value :=
  .object ([textEntry "id" server.id, textEntry "name" server.name] ++
    optionalEntry "iconURL" server.icon ++
    [textEntry "ownerID" server.owner, ("memberCount".toList, .number (.ofNat server.members))])

def Reward.toValue (reward : Reward) : Value :=
  .object [textEntry "id" reward.id, textEntry "name" reward.name,
    textEntry "mention" reward.mention]

def toStore (announcement : Announcement) : Store :=
  .ofNamed ([("user".toList, announcement.user.toValue),
    ("server".toList, announcement.server.toValue)] ++
    (announcement.reward.toList.map fun reward => ("reward".toList, reward.toValue)) ++
    [("level".toList, .number (.ofNat announcement.level)),
     ("oldLevel".toList, .number (.ofNat announcement.oldLevel))])

/-- The message to render: the given one, unless it is blank. -/
def messageOf (template : Option Text) : Text :=
  match template with
  | some template => if Text.trim template = [] then defaultMessage else template
  | none => defaultMessage

def render (announcement : Announcement) (workshop : Workshop) (functions : Functions)
    (renderer : Renderer) (draws : Draws) (template : Option Text) : Report :=
  (workshop.run functions renderer draws (messageOf template) announcement.toStore).1

def userFields : List (FieldRule × Shape) :=
  [(⟨"id", .required, false⟩, .anyText), (⟨"mention", .required, false⟩, .anyText),
   (⟨"username", .required, false⟩, .anyText), (⟨"avatarURL", .defaulted, true⟩, .anyText)]

def serverFields : List (FieldRule × Shape) :=
  [(⟨"id", .required, false⟩, .anyText), (⟨"name", .required, false⟩, .anyText),
   (⟨"iconURL", .defaulted, true⟩, .anyText), (⟨"ownerID", .required, false⟩, .anyText),
   (⟨"memberCount", .required, false⟩, .natural amountLimit)]

def rewardFields : List (FieldRule × Shape) :=
  [(⟨"id", .required, false⟩, .anyText), (⟨"name", .required, false⟩, .anyText),
   (⟨"mention", .required, false⟩, .anyText)]

def fields : List (FieldRule × Shape) :=
  [(⟨"user", .required, false⟩, .record userFields),
   (⟨"server", .required, false⟩, .record serverFields),
   (⟨"reward", .defaulted, true⟩, .record rewardFields),
   (⟨"level", .required, false⟩, .natural (Nat.pow 2 32))]

private def userOf (draft : Draft) : User :=
  ⟨(draft.field userFields "id").asText, (draft.field userFields "mention").asText,
   (draft.field userFields "username").asText, (draft.field userFields "avatarURL").text?⟩

private def serverOf (draft : Draft) : Server :=
  ⟨(draft.field serverFields "id").asText, (draft.field serverFields "name").asText,
   (draft.field serverFields "iconURL").text?, (draft.field serverFields "ownerID").asText,
   (draft.field serverFields "memberCount").asNatural⟩

private def rewardOf? (draft : Draft) : Option Reward :=
  match draft with
  | .null => none
  | draft => some ⟨(draft.field rewardFields "id").asText, (draft.field rewardFields "name").asText,
      (draft.field rewardFields "mention").asText⟩

def ofDraft (draft : Draft) : Announcement :=
  ⟨userOf (draft.field fields "user"), serverOf (draft.field fields "server"),
   rewardOf? (draft.field fields "reward"), (draft.field fields "level").asNatural⟩

def read (draft : Draft) : Except Fault Announcement := draft.readAs (.record fields) ofDraft

private def textMember (name : String) (text : Text) : Text × Json := (name.toList, .text text)

private def optionalMember (name : String) (text : Option Text) : List (Text × Json) :=
  text.toList.map fun text => textMember name text

def toJson (announcement : Announcement) : Json :=
  let user := announcement.user
  let server := announcement.server
  .ofMembers [
    ("user".toList, .ofMembers ([textMember "id" user.id, textMember "mention" user.mention,
      textMember "username" user.username] ++ optionalMember "avatarURL" user.avatar)),
    ("server".toList, .ofMembers ([textMember "id" server.id, textMember "name" server.name] ++
      optionalMember "iconURL" server.icon ++ [textMember "ownerID" server.owner,
      ("memberCount".toList, .ofNat server.members)])),
    ("reward".toList, match announcement.reward with
      | none => .null
      | some reward => .ofMembers [textMember "id" reward.id, textMember "name" reward.name,
          textMember "mention" reward.mention]),
    ("level".toList, .ofNat announcement.level)]

end Announcement

end TagWeave
