import Mathlib.Data.List.Basic

set_option autoImplicit false

/-!
# Where the node's password comes from

`fetchPassword` asks `usingVaultPassword` whether the password is to be read from Vault, and
then reads it from Vault or from the command line. `usingVaultPassword` collects the names of
the password flags that are set into `setPassFlags`, which the source creates with
`make([]string, 3)`: a slice that already holds three empty names. Its length is at least three,
the test `len(setPassFlags) == 1` never holds and the Vault branch is never reached, so every
call exits through `utils.Fatalf` with the message about too many password flags
(`fetchPassword_fatal`), whatever flags are set and in whatever order the maps are ranged over.

The flag names (`utils.*Flag.Name`) are not in the source and are a parameter; a context is the
function `ctx.GlobalString`; the order in which `for ... range` visits a map is a parameter too.
-/

namespace Quorum.Geth

/-- The command-line flags the lookup reads. -/
inductive Flag
  | voteAccountPassword
  | voteBlockMakerAccountPassword
  | passwordFile
  | vaultAddr
  | vaultPrefix
  | vaultPasswordName
  | vaultPasswordPath
  deriving DecidableEq, Repr

/-- How the process ends when the lookup gives up. -/
inductive Exit
  /-- `utils.Fatalf(format, args...)`, its operands being slices of names. -/
  | fatalf (format : String) (args : List (List String))
  /-- `log.Fatal(err)`. -/
  | fatal (err : String)
  /-- A run-time panic of the Go program. -/
  | runtimePanic (reason : String)
  deriving DecidableEq, Repr

/-- Appending, in visiting order, the name of every entry that `keep` accepts: the loops
`for flag, val := range m { if ... { s = append(s, flag.Name) } }`. -/
def appendNames (name : Flag → String) (keep : String → Bool) (s : List String)
    (entries : List (Flag × String)) : List String :=
  entries.foldl (fun acc e => if keep e.2 then acc ++ [name e.1] else acc) s

theorem appendNames_eq (name : Flag → String) (keep : String → Bool) (s : List String)
    (entries : List (Flag × String)) :
    appendNames name keep s entries = s ++ (entries.filter (keep ·.2)).map (name ·.1) := by
  induction entries generalizing s with
  | nil => simp [appendNames]
  | cons e entries ih =>
    simp only [appendNames, List.foldl_cons] at ih ⊢
    rw [ih]
    by_cases h : keep e.2 <;> simp [h]

section Lookup

/-! `name f` is `f.Name`, `ctx` is `ctx.GlobalString`, and `range m` lists the entries of the
map `m` in the order a `for ... range` loop visits them. -/

variable (name : Flag → String) (ctx : String → String)
  (range : List (Flag × String) → List (Flag × String))

/-- `usingVaultPassword(ctx)`. -/
def usingVaultPassword : Except Exit Bool :=
  let passwordFlags : List (Flag × String) :=
    [(.voteAccountPassword, ctx (name .voteAccountPassword)),
      (.voteBlockMakerAccountPassword, ctx (name .voteBlockMakerAccountPassword)),
      (.passwordFile, ctx (name .passwordFile))]
  let setPassFlags := appendNames name (· != "") (List.replicate 3 "") (range passwordFlags)
  if setPassFlags.length > 0 then
    if setPassFlags.length = 1 then .ok false
    else .error (.fatalf
      "Too many password flags have been set.  Only one of the following should be supplied: %v"
      [setPassFlags])
  else
    let vaultFlags : List (Flag × String) :=
      [(.vaultAddr, ctx (name .vaultAddr)), (.vaultPrefix, ctx (name .vaultPrefix)),
        (.vaultPasswordName, ctx (name .vaultPasswordName)),
        (.vaultPasswordPath, ctx (name .vaultPasswordPath))]
    let missingFlags := appendNames name (· == "") (List.replicate 3 "") (range vaultFlags)
    if missingFlags.length > 0 then .error (.fatalf
      "No account password specified, but missing flags required for retrieving password from Vault.  Please supply: %v"
      [missingFlags])
    else .ok true

/-- `fetchPasswordFromCLI(ctx)`: the first password flag that is set; the error it returns is
always `nil`. -/
def fetchPasswordFromCLI : Except Exit String :=
  let accountPass := ctx (name .voteAccountPassword)
  let blockPass := ctx (name .voteBlockMakerAccountPassword)
  let filePass := ctx (name .passwordFile)
  if accountPass != "" then .ok accountPass
  else if blockPass != "" then .ok blockPass
  else if filePass != "" then .ok filePass
  else .error (.fatalf
    "Looked for password via fetchPasswordFromCLI, but no password arguments found." [])

/-- `fetchPasswordFromVault(ctx)`. The login through AWS, the read of the secret and the lookup
of its key talk to Vault, AWS and EC2; `lookup` is how they end. -/
def fetchPasswordFromVault (lookup : Except Exit String) : Except Exit String := do
  if ← usingVaultPassword name ctx range then lookup
  else .error (.fatalf "fetchPasswordFromVault called even though CLI got a password argument." [])

/-- `fetchPassword(ctx)`. -/
def fetchPassword (lookup : Except Exit String) : Except Exit String := do
  if ← usingVaultPassword name ctx range then fetchPasswordFromVault name ctx range lookup
  else fetchPasswordFromCLI name ctx

/-- The names `usingVaultPassword` collects: three empty ones, then those of the password flags
that are set, in visiting order. -/
theorem usingVaultPassword_eq : usingVaultPassword name ctx range = .error (.fatalf
    "Too many password flags have been set.  Only one of the following should be supplied: %v"
    [List.replicate 3 "" ++ ((range [(.voteAccountPassword, ctx (name .voteAccountPassword)),
      (.voteBlockMakerAccountPassword, ctx (name .voteBlockMakerAccountPassword)),
      (.passwordFile, ctx (name .passwordFile))]).filter (·.2 != "")).map (name ·.1)]) := by
  have hlen : ∀ l : List String, (List.replicate 3 "" ++ l).length ≠ 1 := fun l => by simp
  simp only [usingVaultPassword, appendNames_eq, if_neg (hlen _)]
  rw [if_pos (by simp)]

/-- **No lookup returns a password.** For every context, every order of visiting the maps and
every outcome of the Vault calls, `usingVaultPassword`, `fetchPasswordFromVault` and
`fetchPassword` exit through `utils.Fatalf` with the message about too many password flags, the
slice it prints starting with three empty names. -/
theorem fetchPassword_fatal (lookup : Except Exit String) : ∃ flags : List String,
    let e := Exit.fatalf
      "Too many password flags have been set.  Only one of the following should be supplied: %v"
      [List.replicate 3 "" ++ flags]
    usingVaultPassword name ctx range = .error e ∧
      fetchPasswordFromVault name ctx range lookup = .error e ∧
      fetchPassword name ctx range lookup = .error e := by
  refine ⟨_, usingVaultPassword_eq name ctx range, ?_, ?_⟩ <;>
    simp only [fetchPasswordFromVault, fetchPassword, usingVaultPassword_eq] <;> rfl

end Lookup

end Quorum.Geth
