import WireguardGateway.Lib.Text

/-!
# Derived resource names

The names one member's objects carry, derived from the Gateway's UID, the project and the instance
name: the Kubernetes Secret of the record and the three Secret Manager resources of the composite
roster. `nameResourceNames` fails on a base outside the charset or over a length bound; when it
succeeds the four names are one base with three suffixes and the instance name is not empty
(`nameResourceNames_ne_empty`).
-/

namespace WireguardGateway.Gcp

open Lib

/-- The derived names of one member. -/
structure ManagedResourceNames where
  kubernetesSecretName : String
  cloudSecretName : String
  cloudSecretVersionName : String
  cloudSecretIAMMemberName : String
  deriving DecidableEq, Repr

def k8sObjectNameMaxLength : Nat := 253

def secretManagerSecretIDMaxLen : Nat := 255

/-- A character class `[a-z0-9]`. -/
def isLowerAlnum (c : Char) : Bool := ('a' ≤ c && c ≤ 'z') || ('0' ≤ c && c ≤ '9')

/-- The pattern `^[a-z0-9]([a-z0-9-]*[a-z0-9])?$`. -/
def validResourceNameSegment (s : String) : Bool :=
  match s.toList with
  | [] => false
  | c :: cs =>
    isLowerAlnum c && isLowerAlnum ((c :: cs).getLast (by simp)) &&
      cs.all (fun d => isLowerAlnum d || d == '-')

def notSegmentError (base : String) : String :=
  "gcpmembers: derived resource name " ++ quote base ++
    " is not lowercase alphanumeric or hyphen"

def tooLongError (name : String) (bound : Nat) (what : String) : String :=
  "gcpmembers: derived resource name " ++ quote name ++ " exceeds the " ++ toString bound ++
    "-character " ++ what ++ " bound"

/-- `NameBase`: `gw-<gatewayUID>-<project>`. -/
def nameBase (gatewayUID project : String) : Except String String :=
  let base := toLower ("gw-" ++ gatewayUID ++ "-" ++ project)
  if validResourceNameSegment base then .ok base else .error (notSegmentError base)

/-- `NameResourceNames`. Irreducible, so that no proof evaluates names of unknown strings. -/
@[irreducible] def nameResourceNames (gatewayUID project instanceName : String) :
    Except String ManagedResourceNames := do
  let pre ← nameBase gatewayUID project
  let base := toLower (pre ++ "-" ++ instanceName)
  let versionName := base ++ "-version"
  let iamName := base ++ "-iam"
  if !validResourceNameSegment base then
    .error (notSegmentError base)
  else if base.utf8ByteSize > secretManagerSecretIDMaxLen then
    .error (tooLongError base secretManagerSecretIDMaxLen "Secret Manager secret id")
  else if base.utf8ByteSize > k8sObjectNameMaxLength then
    .error (tooLongError base k8sObjectNameMaxLength "Kubernetes object name")
  else if versionName.utf8ByteSize > k8sObjectNameMaxLength then
    .error (tooLongError versionName k8sObjectNameMaxLength "Kubernetes object name")
  else if iamName.utf8ByteSize > k8sObjectNameMaxLength then
    .error (tooLongError iamName k8sObjectNameMaxLength "Kubernetes object name")
  else
    .ok { kubernetesSecretName := base
          cloudSecretName := base
          cloudSecretVersionName := versionName
          cloudSecretIAMMemberName := iamName }

/-- The names extend the base by the name of the instance, in lower case. -/
theorem nameResourceNames_base {uid project name : String} {names : ManagedResourceNames}
    (h : nameResourceNames uid project name = .ok names) :
    ∃ base, nameBase uid project = .ok base ∧
      names.cloudSecretName = toLower (base ++ "-" ++ name) := by
  unfold nameResourceNames at h
  cases hb : nameBase uid project with
  | error e => rw [hb] at h; exact nomatch h
  | ok base =>
    rw [hb] at h
    simp only [bind, Except.bind] at h
    repeat (split at h; · cases h)
    cases h
    exact ⟨base, rfl, rfl⟩

theorem validResourceNameSegment_hyphen (cs : List Char) :
    validResourceNameSegment (String.ofList (cs ++ ['-'])) = false := by
  unfold validResourceNameSegment
  rw [String.toList_ofList]
  cases cs with
  | nil => decide
  | cons c cs =>
    have hlast : (c :: (cs ++ ['-'])).getLast (List.cons_ne_nil _ _) = '-' := by
      rw [List.getLast_cons (by simp), List.getLast_concat]
    simp only [List.cons_append, hlast]
    simp [show isLowerAlnum '-' = false from by decide]

/-- Names derive for named instances only. -/
theorem nameResourceNames_ne_empty {uid project name : String} {names : ManagedResourceNames}
    (h : nameResourceNames uid project name = .ok names) : name ≠ "" := by
  rintro rfl
  unfold nameResourceNames at h
  cases hb : nameBase uid project with
  | error e => rw [hb] at h; exact nomatch h
  | ok pre =>
    have hbase : validResourceNameSegment (toLower (pre ++ "-" ++ "")) = false := by
      have : (pre ++ "-" ++ "").toList.map lowerRune = pre.toList.map lowerRune ++ ['-'] := by
        simp [show lowerRune '-' = '-' from by decide]
      rw [toLower, this, validResourceNameSegment_hyphen]
    rw [hb] at h
    simp only [bind, Except.bind, hbase, Bool.not_false, if_true] at h
    cases h

end WireguardGateway.Gcp
