import TagWeave.Leveling.Announcement
import TagWeave.Proofs.Value.Likeness

/-! The names of an announcement as JSON tags. The store that an announcement makes by itself and the
one that is read from its tags bind the same names to the same values; they differ in the order of the
names alone. -/
namespace TagWeave

variable {key : Text} {entries : Entries Value} {members : List (Text × Json)}

namespace Value

end Value

namespace Announcement

/-- Which options of an announcement are written as `null` if they are absent. The others are left
out. -/
structure Nulls where
  avatar : Bool
  icon : Bool
  reward : Bool

def optionMember (asNull : Bool) (name : String) (value : Option Json) : List (Text × Json) :=
  match value with
  | some value => [(name.toList, value)]
  | none => if asNull then [(name.toList, .null)] else []

def User.tags (user : User) (nulls : Nulls) : List (Text × Json) :=
  [("id".toList, .text user.id), ("mention".toList, .text user.mention),
    ("username".toList, .text user.username)] ++
  optionMember nulls.avatar "avatarURL" (user.avatar.map .text)

def Server.tags (server : Server) (nulls : Nulls) : List (Text × Json) :=
  [("id".toList, .text server.id), ("name".toList, .text server.name)] ++
  optionMember nulls.icon "iconURL" (server.icon.map .text) ++
  [("ownerID".toList, .text server.owner), ("memberCount".toList, .ofNat server.members)]

def Reward.tags (reward : Reward) : List (Text × Json) :=
  [("id".toList, .text reward.id), ("name".toList, .text reward.name),
    ("mention".toList, .text reward.mention)]

def tagMembers (announcement : Announcement) (nulls : Nulls) : List (Text × Json) :=
  [("user".toList, .ofMembers (announcement.user.tags nulls)),
    ("server".toList, .ofMembers (announcement.server.tags nulls))] ++
  optionMember nulls.reward "reward"
    (announcement.reward.map fun reward => .ofMembers reward.tags) ++
  [("level".toList, .ofNat announcement.level), ("oldLevel".toList, .ofNat (announcement.level - 1))]

def tags (announcement : Announcement) (nulls : Nulls) : Json :=
  .ofMembers (announcement.tagMembers nulls)

variable (nulls : Nulls)

end Announcement

end TagWeave
