import LogVault.Proofs.Link.RoundTrip
import LogVault.Proofs.Settings.Variables
import LogVault.World

/-!
# LogVault.Proofs.Vault.Opening — what settings say of the vault they make

A vault that was opened has the store that its settings name, lets links live for their usual time,
and has an issuer for their public URL (`of_ofSettings`): with the secret that the variables gave, if
they gave one, which others can have too (`make_of_ofVariables`), and else with a secret that dies
with the process (`ephemeral_of_ofVariables`).
-/

namespace LogVault

/-- **The issuer of settings**, made with their secret or with one of its own. -/
theorem Issuer.of_ofSettings {σ : Type} {links : LinkSettings} {spare : Bytes} {s : σ} {i : Issuer}
    (h : ((ofSettings links spare).run s).result = .ok i) :
    match links.secret with
    | some secret => make (Text.bytes secret) links.publicUrl links.maxTtl = .ok i
    | none => ∃ made, make spare links.publicUrl links.maxTtl = .ok made ∧
        i = { made with ephemeral := true } := by
  unfold ofSettings at h
  cases hsecret : links.secret with
  | some secret =>
    rw [hsecret] at h
    dsimp only at h
    cases hmake : make (Text.bytes secret) links.publicUrl links.maxTtl with
    | error flaw =>
      rw [hmake] at h
      cases h
    | ok made =>
      rw [hmake] at h
      cases h
      exact hmake
  | none =>
    rw [hsecret] at h
    dsimp only at h
    obtain ⟨_, _, _, -, h⟩ := Action.exists_of_bind_eq_ok h
    cases hmake : make spare links.publicUrl links.maxTtl with
    | error flaw =>
      rw [hmake] at h
      cases h
    | ok made =>
      rw [hmake] at h
      cases h
      exact ⟨made, rfl, rfl⟩

/-- **The vault of settings** has their store and their issuer. -/
theorem Vault.of_ofSettings {s : Settings} {spare : Bytes} {w : World} {v : Vault World}
    (h : ((ofSettings s spare).run w).result = .ok v) :
    ((World.openStore s.storage).run w).result = .ok v.store ∧
      v.defaultTtl = s.links.defaultTtl ∧
      ∃ t, ((Issuer.ofSettings s.links spare).run (t : World)).result = .ok v.issuer := by
  obtain ⟨store, t, _, hannounced, h⟩ := Action.exists_of_bind_eq_ok h
  obtain ⟨issuer, _, _, hissuer, h⟩ := Action.exists_of_bind_eq_ok h
  cases h
  have hresult : ((World.announceStore s.storage).run w).result = .ok store := by rw [hannounced]
  obtain ⟨opened, _, _, hopened, hresult⟩ := Action.exists_of_bind_eq_ok hresult
  obtain ⟨_, _, _, -, hresult⟩ := Action.exists_of_bind_eq_ok hresult
  cases hresult
  exact ⟨by rw [hopened], rfl, t, by rw [hissuer]⟩

/-- The issuer lets links live as long as the settings say. -/
theorem Vault.maxTtl_of_ofSettings {s : Settings} {spare : Bytes} {w : World} {v : Vault World}
    (h : ((ofSettings s spare).run w).result = .ok v) : v.issuer.maxTtl = s.links.maxTtl := by
  obtain ⟨-, -, _, hissuer⟩ := of_ofSettings h
  have hmade := Issuer.of_ofSettings hissuer
  split at hmade
  · obtain ⟨-, _, -, heq⟩ := Issuer.make_eq_ok_iff.mp hmade
    rw [heq]
  · obtain ⟨made, hmake, heq⟩ := hmade
    obtain ⟨-, _, -, rfl⟩ := Issuer.make_eq_ok_iff.mp hmake
    rw [heq]

section Variables

variable {vars : Settings.Variables} {s : Settings} {spare : Bytes} {w : World} {v : Vault World}

/-- **With a secret in the variables** the vault's issuer is made with it. -/
theorem Vault.make_of_ofVariables (hs : Settings.ofVariables vars = .ok s)
    (hv : ((ofSettings s spare).run w).result = .ok v) {secret : String}
    (hset : vars "LINK_SECRET" = some secret) (hsome : secret ≠ "") :
    Issuer.make (Text.bytes secret) s.links.publicUrl s.links.maxTtl = .ok v.issuer := by
  have hsecret : s.links.secret = some secret := by
    rw [(Settings.of_ofVariables hs).2.1, hset, Option.filter_some, if_pos (bne_iff_ne.mpr hsome)]
  obtain ⟨-, -, _, hissuer⟩ := of_ofSettings hv
  have hmade := Issuer.of_ofSettings hissuer
  rwa [hsecret] at hmade

/-- **Without a secret in the variables** the vault's issuer has one that dies with the process. -/
theorem Vault.ephemeral_of_ofVariables (hs : Settings.ofVariables vars = .ok s)
    (hv : ((ofSettings s spare).run w).result = .ok v)
    (hnone : vars "LINK_SECRET" = none ∨ vars "LINK_SECRET" = some "") :
    v.issuer.ephemeral = true := by
  have hsecret : s.links.secret = none := by
    rw [(Settings.of_ofVariables hs).2.1]
    rcases hnone with hnone | hnone <;> rw [hnone] <;> rfl
  obtain ⟨-, -, _, hissuer⟩ := of_ofSettings hv
  have hmade := Issuer.of_ofSettings hissuer
  rw [hsecret] at hmade
  obtain ⟨made, -, hephemeral⟩ := hmade
  rw [hephemeral]

end Variables

end LogVault
