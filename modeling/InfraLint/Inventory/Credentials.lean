import InfraLint.Text.Cut
import InfraLint.Config.Resolve
import InfraLint.Module.Basic

/-!
# Credentials

What is needed to reach the provider: a pair of keys or a named profile, the file that profiles are
read from, and the region. Every part may be missing, and sources of credentials are combined part
by part.
-/

namespace InfraLint

/-- Credentials and region. -/
structure Credentials where
  accessKey : Option String
  secretKey : Option String
  profile : Option String
  sharedFile : Option String
  region : Option String
deriving Repr, DecidableEq

namespace Credentials

/-- No credentials. -/
def none : Credentials := ⟨.none, .none, .none, .none, .none⟩

/-- Fills the parts that are missing from other credentials. -/
def orElse (first second : Credentials) : Credentials where
  accessKey := first.accessKey <|> second.accessKey
  secretKey := first.secretKey <|> second.secretKey
  profile := first.profile <|> second.profile
  sharedFile := first.sharedFile <|> second.sharedFile
  region := first.region <|> second.region

/-- Whether both keys are known. -/
def hasStaticKeys (credentials : Credentials) : Bool :=
  credentials.accessKey.isSome && credentials.secretKey.isSome

/-- A path in which a leading `~` that is the whole first segment stands for the home directory. -/
def expandHome (home : Option String) (path : String) : String :=
  match home with
  | .none => path
  | some dir =>
    match path.toList with
    | '~' :: rest =>
      if rest.isEmpty || rest.head? == some '/' then dir ++ String.ofList rest else path
    | _ => path

/-- The environment variables that carry the credentials. A single key is not passed on. -/
def environment (home : Option String) (credentials : Credentials) : List (String × String) :=
  let keys :=
    match credentials.accessKey, credentials.secretKey with
    | some access, some secret => [("AWS_ACCESS_KEY_ID", access), ("AWS_SECRET_ACCESS_KEY", secret)]
    | _, _ => []
  match credentials.sharedFile with
  | some path => keys ++ [("AWS_SHARED_CREDENTIALS_FILE", expandHome home path)]
  | .none => keys

/-- The credentials that a module's `provider "aws"` block declares. Parts that do not resolve to a
string are missing. -/
def ofModule (module : Module) : Credentials :=
  match module.provider? "aws" with
  | .none => none
  | some block =>
    let part := fun name =>
      (block.attribute? name).bind fun attr => (module.scope.resolve attr.token).toOption
    ⟨part "access_key", part "secret_key", part "profile", part "shared_credentials_file",
      part "region"⟩

end Credentials

end InfraLint
