import FeatureToggle.Strategy.Basic

/-!
# Listed users and roles

The strategies that look the caller up in a list: by name, or by the roles among the caller's
attributes.
-/
namespace FeatureToggle.Strategy

/-- The parameter that lists roles, and the attribute that holds those of a user. -/
def rolesParameter : String := "roles"
def rolesAttribute : String := "roles"

def isListedUser (s : FeatureState) (user : Option User) : Bool :=
  match user with
  | none => false
  | some u => s.users.any (· == u.name)

def hasListedRole (s : FeatureState) (user : Option User) : Bool :=
  match user.bind (·.attribute? rolesAttribute) with
  | none => false
  | some roles => (Text.entriesOf "," (s.parameter rolesParameter)).any roles.containsString

/-- Active for the users whose names are listed. -/
def username : Strategy where
  id := FeatureState.usernameStrategy
  name := "Users by name"
  isActive s user := pure (isListedUser s user)
  parameters := [((Parameter.of FeatureState.usersParameter).labelled "Users").asLargeText.described
    "A list of users for which the feature is active."]

/-- Active for the users who hold one of the listed roles. -/
def userRole : Strategy where
  id := "user-role"
  name := "Users by role"
  isActive s user := pure (hasListedRole s user)
  parameters := [((Parameter.of rolesParameter).labelled "Roles").asLargeText.described
    "A list of user roles for which the feature is active."]

end FeatureToggle.Strategy
