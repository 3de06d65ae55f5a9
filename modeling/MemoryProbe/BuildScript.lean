import MemoryProbe.Git.Repository

namespace MemoryProbe.BuildScript

/-! ## The build script

It hands facts about the checkout and the image version to the build as lines on
standard output. When the checkout cannot be read, a warning takes the place of its
facts. -/

inductive Checkout where
  | missing (directory : String)
  | repository (found : Git.Repository)

inductive GitError where
  | noRepository (directory : String)
  | noCommit
  deriving DecidableEq, Repr

def GitError.message : GitError → String
  | .noRepository directory =>
      "could not find repository at '" ++ directory ++
        "'; class=Repository (6); code=NotFound (-3)"
  | .noCommit =>
      "the reference 'HEAD' cannot be peeled - Cannot resolve reference; " ++
        "class=Invalid (3); code=NotFound (-3)"

structure Facts where
  branch : String
  description : String
  commit : String
  dirty : Bool
  deriving DecidableEq, Repr

def facts : Checkout → Except GitError Facts
  | .missing directory => .error (.noRepository directory)
  | .repository found =>
      match found.commits with
      | [] => .error .noCommit
      | newest :: earlier => .ok {
          branch := found.branchName
          description :=
            Git.Repository.describeClean newest earlier ++ found.dirtyMark
          commit := newest.id.short
          dirty := found.isDirty }

def setVariable (name value : String) : String :=
  "cargo:rustc-env=" ++ name ++ "=" ++ value

def Facts.lines (facts : Facts) : List String :=
  [setVariable "VERGEN_GIT_BRANCH" facts.branch,
    setVariable "VERGEN_GIT_DESCRIBE" facts.description,
    setVariable "VERGEN_GIT_SHA" facts.commit,
    setVariable "VERGEN_GIT_DIRTY" (if facts.dirty then "true" else "false")]

/-- The look at the checkout prints lines of its own and may fail. -/
structure GitStep where
  printed : List String
  failure : Option String
  deriving DecidableEq, Repr

def gitStep (checkout : Checkout) : GitStep :=
  match facts checkout with
  | .ok facts => ⟨facts.lines, none⟩
  | .error error => ⟨[], some error.message⟩

def warning (message : String) : String :=
  "cargo:warning=vergen: " ++ message

def GitStep.lines (step : GitStep) : List String :=
  step.printed ++ step.failure.toList.map warning

/-! ## Runs -/

/-- The image version is `latest` unless one is set that is text. -/
def imageVersion (version : Option Bytes) : String :=
  (version.bind Bytes.toString?).getD "latest"

def instructions (step : GitStep) (version : Option Bytes) : List String :=
  step.lines ++
    [setVariable "IMAGE_VERSION" (imageVersion version),
      "cargo:rerun-if-env-changed=VERSION"]

structure Run where
  exitCode : Nat
  output : String
  deriving DecidableEq, Repr

/-- A failed look at the checkout is no failure of the script: a warning tells of it. -/
def run (step : GitStep) (version : Option Bytes) : Run where
  exitCode := 0
  output := String.join ((instructions step version).map (· ++ "\n"))

def output (checkout : Checkout) (version : Option Bytes) : String :=
  (run (gitStep checkout) version).output

end MemoryProbe.BuildScript
