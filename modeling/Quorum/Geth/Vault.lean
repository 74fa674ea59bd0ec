import Quorum.Geth.Passwords

set_option autoImplicit false

/-!
# Reading the password from Vault

When `usingVaultPassword` holds, `fetchPasswordFromVault` logs in to Vault by its AWS method and
reads the password from a secret. `getIAMRole` takes the role from the instance profile ARN of
the EC2 instance, `loginAws` logs in under that role, and `readVaultPassword`, the first branch
of `fetchPasswordFromVault`, reads the secret with the token the login gives. What the EC2
metadata service, `awsauth.GenerateLoginData` and the Vault server answer are parameters, and
`fetchPasswordFromVault name ctx range (readVaultPassword name ctx vault g i)` is the whole
function. By `fetchPassword_fatal` no context reaches this branch; it is modelled for what it
does once reached.

* `getIAMRole_spec`: `strings.Split(profile, "/")[1]` is the role, so `getIAMRole` fails exactly
  when the ARN has no `/`, and otherwise returns the text between its first and its second `/`,
  or after the first when there is no second. An instance profile with a path
  (`instance-profile/team/web`) gives the first segment of the path, not the profile's name.
-/

namespace Quorum.Geth

/-! ## The role of the instance -/

/-- What `ec2metadata.IAMInfo()` reports, of which the code reads the instance profile ARN. -/
structure IAMInfo where
  instanceProfileArn : String

/-- `getIAMRole()`, given what `svc.IAMInfo()` returns. `strings.Split(profile, "/")` splits the
characters at `/`, which is one byte in UTF-8 and no byte of another character. -/
def getIAMRole (iamInfo : Except String IAMInfo) : Except String String := do
  let iam ← iamInfo
  let profile := iam.instanceProfileArn
  let splitArn := (profile.data.splitOn '/').map String.mk
  if h : splitArn.length < 2 then .error "no / character found in instance profile ARN"
  else .ok (splitArn.get ⟨1, by omega⟩)

section Split

/-- No piece of a split holds a character split on. -/
theorem not_of_mem_splitOnP {p : Char → Bool} :
    ∀ {xs l : List Char}, l ∈ xs.splitOnP p → ∀ c ∈ l, p c = false
  | [], l, h => by
    rw [List.splitOnP_nil, List.mem_singleton] at h
    subst h
    exact fun _ => nofun
  | x :: xs, l, h => by
    rw [List.splitOnP_cons] at h
    split_ifs at h with hx
    · rcases List.mem_cons.1 h with rfl | h
      · exact fun _ => nofun
      · exact not_of_mem_splitOnP h
    · obtain ⟨r, rs, hr⟩ := List.exists_cons_of_ne_nil (List.splitOnP_ne_nil p xs)
      rw [hr, List.modifyHead] at h
      rcases List.mem_cons.1 h with rfl | h
      · intro c hc
        rcases List.mem_cons.1 hc with rfl | hc
        · simpa using hx
        · exact not_of_mem_splitOnP (hr ▸ List.mem_cons_self _ _) c hc
      · exact not_of_mem_splitOnP (hr ▸ List.mem_cons_of_mem _ h)

variable {xs : List Char}

theorem slash_not_mem_of_mem_splitOn {l : List Char} (h : l ∈ xs.splitOn '/') : '/' ∉ l :=
  fun hl => absurd (@not_of_mem_splitOnP (· == '/') xs l h '/' hl) (by simp)

theorem splitOn_slash_of_not_mem (h : '/' ∉ xs) : xs.splitOn '/' = [xs] :=
  List.splitOnP_eq_single (· == '/') xs fun _ hx e => h (beq_iff_eq.1 e ▸ hx)

theorem splitOn_slash_append (h : '/' ∉ xs) (ys : List Char) :
    (xs ++ '/' :: ys).splitOn '/' = xs :: ys.splitOn '/' :=
  List.splitOnP_first (· == '/') xs (fun _ hx e => h (beq_iff_eq.1 e ▸ hx)) _
    (beq_self_eq_true _) _

end Split

/-- `getIAMRole` on an ARN: the second piece of its split at `/`, if there is one. -/
theorem getIAMRole_ok (arn : String) : getIAMRole (.ok ⟨arn⟩) =
    match arn.data.splitOn '/' with
    | _ :: role :: _ => .ok ⟨role⟩
    | _ => .error "no / character found in instance profile ARN" := by
  rcases e : arn.data.splitOn '/' with _ | ⟨a, _ | ⟨b, tl⟩⟩ <;>
    simp [getIAMRole, bind, Except.bind, e]

/-- An ARN with no `/` is refused, and only such an ARN. -/
theorem getIAMRole_eq_error_iff (arn : String) :
    getIAMRole (.ok ⟨arn⟩) = .error "no / character found in instance profile ARN" ↔
      '/' ∉ arn.data := by
  rw [getIAMRole_ok]
  refine ⟨fun h hmem => ?_, fun h => by rw [splitOn_slash_of_not_mem h]⟩
  have hsplit := List.intercalate_splitOn arn.data '/'
  rcases e : arn.data.splitOn '/' with _ | ⟨a, _ | ⟨b, tl⟩⟩
  · exact List.splitOnP_ne_nil _ _ e
  · rw [e] at hsplit
    have ha := slash_not_mem_of_mem_splitOn (e ▸ List.mem_singleton_self a)
    simp only [List.intercalate, List.intersperse, List.flatten, List.append_nil] at hsplit
    exact ha (hsplit ▸ hmem)
  · rw [e] at h
    cases h

/-- An ARN's role is the text between its first and its second `/`, or after its first when
there is no second. -/
theorem getIAMRole_eq_ok_iff (arn role : String) :
    getIAMRole (.ok ⟨arn⟩) = .ok role ↔
      ∃ pre : String, '/' ∉ pre.data ∧ '/' ∉ role.data ∧
        (arn = pre ++ "/" ++ role ∨ ∃ rest : String, arn = pre ++ "/" ++ role ++ "/" ++ rest) := by
  rw [getIAMRole_ok]
  constructor
  · have hsplit := List.intercalate_splitOn arn.data '/'
    rcases e : arn.data.splitOn '/' with _ | ⟨a, _ | ⟨b, tl⟩⟩ <;> intro h <;> cases h
    have ha := slash_not_mem_of_mem_splitOn (e ▸ List.mem_cons_self a _)
    have hb := slash_not_mem_of_mem_splitOn (e ▸ List.mem_cons_of_mem a (List.mem_cons_self b _))
    refine ⟨⟨a⟩, ha, hb, ?_⟩
    rw [e] at hsplit
    rcases tl with _ | ⟨c, tl⟩
    · refine .inl (String.ext ?_)
      simp [← hsplit, List.intercalate, List.intersperse]
    · refine .inr ⟨⟨['/'].intercalate (c :: tl)⟩, String.ext ?_⟩
      simp [← hsplit, List.intercalate, List.intersperse]
  · rintro ⟨pre, hpre, hrole, rfl | ⟨rest, rfl⟩⟩
    · simp only [String.data_append, List.append_assoc, List.cons_append, List.nil_append]
      rw [splitOn_slash_append hpre, splitOn_slash_of_not_mem hrole]
    · simp only [String.data_append, List.append_assoc, List.cons_append, List.nil_append]
      rw [splitOn_slash_append hpre, splitOn_slash_append hrole]

/-- **The role is the second segment of the ARN.** For every instance profile ARN,
`getIAMRole` fails with "no / character found in instance profile ARN" exactly when the ARN has
no `/`, and otherwise returns the text between its first and its second `/`, or after its first
when there is no second: the role is the profile's name only when the profile has no path. -/
theorem getIAMRole_spec (arn : String) :
    (getIAMRole (.ok ⟨arn⟩) = .error "no / character found in instance profile ARN" ↔
      '/' ∉ arn.data) ∧
    ∀ role : String, getIAMRole (.ok ⟨arn⟩) = .ok role ↔
      ∃ pre : String, '/' ∉ pre.data ∧ '/' ∉ role.data ∧
        (arn = pre ++ "/" ++ role ∨ ∃ rest : String, arn = pre ++ "/" ++ role ++ "/" ++ rest) :=
  ⟨getIAMRole_eq_error_iff arn, getIAMRole_eq_ok_iff arn⟩

/-- A profile with a path gives the path's first segment. -/
example :
    getIAMRole (.ok ⟨"arn:aws:iam::123456789012:instance-profile/team/web"⟩) = .ok "team" := rfl

/-! ## Logging in and reading the secret -/

/-- A value of a Go `map[string]interface{}`: a string, or a value of another type. -/
inductive Value
  | string (s : String)
  | other

/-- The auth part of a `*vaultAPI.Secret`, of which the code reads the client token. -/
structure SecretAuth where
  clientToken : String

/-- A `*vaultAPI.Secret`: its data, and its auth part (`nil` is `none`). -/
structure Secret where
  data : String → Option Value
  auth : Option SecretAuth

/-- A `*vaultAPI.Client` as the code uses it: what Vault answers to `Logical().Write(path, data)`,
and to `Logical().Read(path)` under a token. A `nil` secret is `none`. -/
structure Client where
  write : String → (String → Option Value) → Except String (Option Secret)
  read : String → String → Except String (Option Secret)

/-- `loginAws(v)`. `generateLoginData` is what `awsauth.GenerateLoginData("", "", "", "")`
returns (`nil` data is `none`), and `iamInfo` what the EC2 metadata service reports. -/
def loginAws (generateLoginData : Except String (Option (String → Option Value)))
    (iamInfo : Except String IAMInfo) (v : Client) : Except String String := do
  let some loginData ← generateLoginData | .error "got nil response from GenerateLoginData"
  let role ← getIAMRole iamInfo
  let loginData := Function.update loginData "role" (some (.string role))
  let path := "auth/aws/login"
  let some secret ← v.write path loginData | .error "empty response from credential provider"
  let some auth := secret.auth | .error "auth secret has no auth data"
  return auth.clientToken

section Read

variable (name : Flag → String) (ctx : String → String)

/-- The branch of `fetchPasswordFromVault(ctx)` taken when `usingVaultPassword(ctx)` holds.
`vault addr` is the client `vaultAPI.NewClient` makes for the address `addr`; the source
overwrites the error `NewClient` returns. A `log.Fatal` exits, so the `return` after it is never
reached; so is the `return` after a failed key lookup, which exits through `utils.Fatalf`. -/
def readVaultPassword (vault : String → Client)
    (generateLoginData : Except String (Option (String → Option Value)))
    (iamInfo : Except String IAMInfo) : Except Exit String := do
  let vaultClient := vault (ctx (name .vaultAddr))
  let token ← (loginAws generateLoginData iamInfo vaultClient).mapError .fatal
  let secret ← (vaultClient.read token
    ("/" ++ ctx (name .vaultPrefix) ++ "/" ++ ctx (name .vaultPasswordPath))).mapError .fatal
  let some secret := secret
    | .error (.runtimePanic "invalid memory address or nil pointer dereference")
  match secret.data (ctx (name .vaultPasswordName)) with
  | none => .error (.fatalf
      "fetchPasswordFromVault found a secret at specified path, but secret did not contain specified key name."
      [])
  | some (.string password) => .ok password
  | some .other => .error (.runtimePanic "interface conversion")

end Read

end Quorum.Geth
