import LogVault.Proofs.Http.Redemption
import LogVault.Proofs.Link.Expiry
import LogVault.Proofs.Vault.Opening

/-!
# LogVault.Proofs.Http.Lifetime — settings under which links are given

The usual time to live of a link and its maximum are two settings, and a vault is opened whatever they
are. They meet when a link is asked for without a time to live, as every request over HTTP does: it
is given just if the usual time is positive, not above the maximum, and ends within the range of
instants (`LinkSettings.Permits`), and else the request is refused as invalid, for every blob alike
(`link_given_iff_permits`).
-/

namespace LogVault

/-- **Settings under which links are given** at an instant, when no time to live is asked for. -/
def LinkSettings.Permits (links : LinkSettings) (now : Instant) : Prop :=
  0 < links.defaultTtlSeconds ∧ links.defaultTtlSeconds ≤ links.maxTtlSeconds ∧
    now.second + links.defaultTtlSeconds ≤ Instant.greatestSecond

instance (links : LinkSettings) (now : Instant) : Decidable (links.Permits now) :=
  inferInstanceAs (Decidable (_ ∧ _))

namespace Http.Router

/-! ## A request for a link -/

section Requests

variable {σ : Type} {v : Vault σ} {limit : Nat} {now : Instant} {mode : Mode}
  {query : Option (List Char)} {body : Body} {blob : BlobRef}

/-- A request for a link that names a blob comes down to issuing the link. -/
theorem needed_link {r : Request} (hblob : readBlob r = .ok blob) :
    needed v limit now r (.link mode) =
      (v.linkFor mode blob none now).map fun link => .nothing (.document 200 link.document) := by
  obtain ⟨p, hp, hblob⟩ := Except.exists_of_bind_eq_ok hblob
  simp only [needed, hp, hblob, bind, Except.bind]
  cases v.linkFor mode blob none now <;> rfl

/-- **The status of a request for a link** says whether the link is issued. -/
theorem status_linkRequest (hblob : readBlob (linkRequest mode query body) = .ok blob) (s : σ) :
    (answer v limit now (linkRequest mode query body) s).response.status =
      match v.linkFor mode blob none now with
      | .ok _ => 200
      | .error fault => fault.status := by
  have hseen := seen_answer v limit now (linkRequest mode query body) s
  rw [need_of_leadsTo leadsTo_linkRequest, needed_link hblob] at hseen
  cases hlink : v.linkFor mode blob none now with
  | error fault =>
    rw [hlink] at hseen
    have hresponse := (Prod.mk.inj hseen).1
    rw [hresponse, status_sent]
    rfl
  | ok link =>
    rw [hlink] at hseen
    have hresponse := (Prod.mk.inj hseen).1
    rw [hresponse, status_sent]
    rfl

end Requests

/-! ## Under settings -/

section Settings

variable {s : Settings} {spare : Bytes} {w : World} {v : Vault World} {mode : Mode}
  {blob : BlobRef} {key : StorageKey}

/-- An issuer of settings has a link for their usual time to live just if they permit it. -/
theorem exists_issue_iff_permits (hv : ((Vault.ofSettings s spare).run w).result = .ok v)
    (key : StorageKey) (snapshot : Option String) (mode : Mode) (now : Instant) :
    (∃ link, v.issuer.issue key snapshot mode v.defaultTtl now = .ok link) ↔
      s.links.Permits now := by
  have hmax : v.issuer.maxTtl = .ofSeconds s.links.maxTtlSeconds := Vault.maxTtl_of_ofSettings hv
  have hdefault : v.defaultTtl = .ofSeconds s.links.defaultTtlSeconds :=
    (Vault.of_ofSettings hv).2.1
  rw [Issuer.exists_issue_iff, hdefault, Issuer.exists_expiry_ofSeconds_iff hmax,
    LinkSettings.Permits]

/-- **The settings decide** about every link for which no time to live is asked. -/
theorem linkFor_cases (hv : ((Vault.ofSettings s spare).run w).result = .ok v)
    (hkey : blob.resolve = .ok key) (mode : Mode) (now : Instant) :
    (s.links.Permits now ∧ ∃ link, v.linkFor mode blob none now = .ok link ∧
        link.key = key ∧ link.mode = mode) ∨
      (¬ s.links.Permits now ∧ ∃ reason,
        v.linkFor mode blob none now = .error (.invalidArgument reason)) := by
  have hissue := exists_issue_iff_permits hv key blob.snapshot mode now
  have hlink : v.linkFor mode blob none now =
      (v.issuer.issue key blob.snapshot mode v.defaultTtl now).mapError
        Issuer.TtlFlaw.fault := by
    rw [Vault.linkFor, hkey, Except.bind, Option.getD_none]
  rw [hlink]
  by_cases hpermits : s.links.Permits now
  · obtain ⟨link, hok⟩ := hissue.mpr hpermits
    obtain ⟨-, hlinkKey, hlinkMode, -⟩ := Issuer.of_issue hok
    exact .inl ⟨hpermits, link, by rw [hok]; rfl, hlinkKey, hlinkMode⟩
  · exact .inr ⟨hpermits, Issuer.exists_invalidArgument_of_issue (mt hissue.mp hpermits)⟩

/-- **A link is given just if the settings permit it.** In a vault that was opened with settings,
issuing a link for a blob that has a key, without asking for a time to live, succeeds just if they
permit it at that instant, and else is refused as invalid. So a request over HTTP for a link to such
a blob is answered with success or as a bad request. -/
theorem link_given_iff_permits (hv : ((Vault.ofSettings s spare).run w).result = .ok v)
    (hkey : blob.resolve = .ok key) (mode : Mode) (now : Instant) (u : World) :
    (s.links.Permits now → ∃ link, ((v.link mode blob none now).run u).result = .ok link ∧
      link.key = key ∧ link.mode = mode) ∧
    (¬ s.links.Permits now → ∃ reason,
      ((v.link mode blob none now).run u).result = .error (.invalidArgument reason)) ∧
    ∀ limit query body, readBlob (linkRequest mode query body) = .ok blob →
      (answer v limit now (linkRequest mode query body) u).response.status =
        if s.links.Permits now then 200 else 400 := by
  rw [Vault.run_link]
  rcases linkFor_cases hv hkey mode now with ⟨hpermits, link, hlink, hissued⟩ |
    ⟨hpermits, reason, hrefused⟩
  · refine ⟨fun _ => ⟨link, hlink, hissued⟩, absurd hpermits, fun limit query body hblob => ?_⟩
    rw [status_linkRequest hblob, hlink, if_pos hpermits]
  · refine ⟨fun h => absurd h hpermits, fun _ => ⟨reason, hrefused⟩,
      fun limit query body hblob => ?_⟩
    rw [status_linkRequest hblob, hrefused, if_neg hpermits]
    rfl

end Settings

/-- The variables of a vault in memory whose links may live for so many seconds. -/
def maxTtlVariables (seconds : String) : Settings.Variables := fun name =>
  [("STORAGE_PROVIDER", "memory"), ("LINK_SECRET", "k"), ("LINK_MAX_TTL_SECS", seconds)].lookup name

/-- Links may live for an hour, and that is the usual time. -/
theorem link_given_for_an_hour :
    ∃ (s : Settings) (v : Vault World), Settings.ofVariables (maxTtlVariables "3600") = .ok s ∧
      ((Vault.ofSettings s []).run .empty).result = .ok v ∧ s.links.Permits .zero ∧
      (answer v 16 .zero (linkRequest .upload (some "accountID=acct1&key=logA".toList) (.whole []))
        .empty).response.status = 200 := by
  obtain ⟨s, v, hs, hv, hpermits⟩ : ∃ s v,
      Settings.ofVariables (maxTtlVariables "3600") = .ok s ∧
      ((Vault.ofSettings s []).run .empty).result = .ok v ∧ s.links.Permits .zero :=
    ⟨_, _, rfl, rfl, by decide⟩
  have hkey : BlobRef.resolve ⟨"acct1", "logA", none⟩ = .ok ⟨"acct1/logA"⟩ := rfl
  have hstatus := (link_given_iff_permits hv hkey .upload .zero .empty).2.2 16
    (some "accountID=acct1&key=logA".toList) (.whole []) (by decide +kernel)
  rw [if_pos hpermits] at hstatus
  exact ⟨s, v, hs, hv, hpermits, hstatus⟩

/-- Links may live for a minute, and the usual time is an hour: the vault is opened, and every
request for a link is refused, as here in the year 2024. -/
theorem link_refused_for_a_minute :
    ∃ (s : Settings) (v : Vault World) (now : Instant),
      Settings.ofVariables (maxTtlVariables "60") = .ok s ∧
      ((Vault.ofSettings s []).run .empty).result = .ok v ∧ now.second = 1714564800 ∧
      BlobRef.resolve ⟨"acct1", "logA", none⟩ = .ok ⟨"acct1/logA"⟩ ∧
      ((v.link .upload ⟨"acct1", "logA", none⟩ none now).run .empty).result =
        .error (.invalidArgument "link ttl 3600s exceeds the maximum of 60s") ∧
      (answer v 16 now (linkRequest .upload (some "accountID=acct1&key=logA".toList) (.whole []))
        .empty).response.status = 400 := by
  obtain ⟨s, v, now, hs, hv, hnow, hlink⟩ : ∃ s v, ∃ now : Instant,
      Settings.ofVariables (maxTtlVariables "60") = .ok s ∧
      ((Vault.ofSettings s []).run .empty).result = .ok v ∧ now.second = 1714564800 ∧
      v.linkFor .upload ⟨"acct1", "logA", none⟩ none now =
        .error (.invalidArgument "link ttl 3600s exceeds the maximum of 60s") :=
    ⟨_, _, ⟨1714564800, 0, by decide, by decide, by decide⟩, rfl, rfl, rfl, rfl⟩
  refine ⟨s, v, now, hs, hv, hnow, rfl, by rw [Vault.run_link, hlink], ?_⟩
  have hblob : readBlob (linkRequest .upload (some "accountID=acct1&key=logA".toList) (.whole [])) =
      .ok ⟨"acct1", "logA", none⟩ := by decide +kernel
  rw [status_linkRequest hblob, hlink]
  rfl

end Http.Router

end LogVault
