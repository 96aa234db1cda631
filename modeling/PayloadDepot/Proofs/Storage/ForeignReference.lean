import PayloadDepot.Proofs.Claim
import PayloadDepot.Proofs.Storage.DirectoryRuns
import PayloadDepot.Proofs.Storage.MemoryRuns
import PayloadDepot.Proofs.Text.Parts
import PayloadDepot.Storage.Bucket.Depot

/-!
# Foreign references

A reference leads somewhere exactly if it is the scheme, a container, a slash
and a name, and there is only one way to read it like this.  The schemes of the
three kinds of depots do not begin alike, so no depot takes a reference of
another kind for one of its own: it refuses it before it looks into its store.
-/

namespace PayloadDepot

variable {δ : Type}

namespace Reference

/-- A reference is a scheme with a container, a slash and a name, and the latter two are single
components. -/
def Leads (reference : Reference) (scheme container name : String) : Prop :=
  reference.text = scheme ++ container ++ "/" ++ name ∧ Text.IsComponent container ∧
    Text.IsComponent name

section Grammar

variable {scheme container name : String} {reference : Reference}

theorem components_of_parts? {scheme text container name : List Char}
    (found : parts? scheme text = some (container, name)) :
    (container ≠ [] ∧ '/' ∉ container) ∧ name ≠ [] ∧ '/' ∉ name := by
  rw [parts?] at found
  split at found
  · cases found
  · split at found
    · cases found
    · next split =>
      obtain ⟨-, whole⟩ := Text.splitAtFirst?_eq_some_iff.mp split
      split at found
      · cases found
      · next filled =>
        cases found
        simp only [not_or] at filled
        exact ⟨⟨filled.1, whole⟩, filled.2⟩

theorem leads_of_locate (located : reference.locate scheme = .ok (container, name)) :
    reference.Leads scheme container name := by
  refine ⟨congrArg text (eq_compose_of_locate located), ?_⟩
  rw [locate] at located
  split at located
  · next found =>
    cases located
    obtain ⟨⟨filled, whole⟩, nameFilled, nameWhole⟩ := components_of_parts? found
    simp only [Text.IsComponent, String.toList_ofList, ne_eq, String.ofList_eq_empty_iff]
    exact ⟨⟨filled, whole⟩, nameFilled, nameWhole⟩
  · cases located

theorem locate_eq_ok_iff :
    reference.locate scheme = .ok (container, name) ↔ reference.Leads scheme container name := by
  refine ⟨leads_of_locate, ?_⟩
  rintro ⟨text, containerOk, nameOk⟩
  obtain rfl : reference = compose scheme container name := by
    rw [compose, ← text]
  exact locate_compose scheme containerOk nameOk

theorem locate_eq_error_iff {fault : Fault} : reference.locate scheme = .error fault ↔
    (∀ container name, ¬ reference.Leads scheme container name) ∧
      fault = .badReference reference.text := by
  simp only [← locate_eq_ok_iff]
  rw [locate]
  split
  · simp
  · simp [eq_comm]

theorem Leads.unique {containerOther nameOther : String}
    (leads : reference.Leads scheme container name)
    (other : reference.Leads scheme containerOther nameOther) :
    container = containerOther ∧ name = nameOther := by
  have located := locate_eq_ok_iff.mpr leads
  rw [locate_eq_ok_iff.mpr other, Except.ok.injEq, Prod.mk.injEq] at located
  exact ⟨located.1.symm, located.2.symm⟩

end Grammar

end Reference

/-- What the references of the depots of a kind begin with. -/
def DepotKind.scheme : DepotKind → String
  | memory => MemoryDepot.scheme
  | fileSystem => DirectoryDepot.scheme
  | objectStore => BucketDepot.scheme

namespace DepotKind

/-- The schemes of different kinds differ in their first letters. -/
theorem not_leads_of_ne {kind other : DepotKind} (different : other ≠ kind)
    (container name containerOther nameOther : String) :
    ¬ (Reference.compose other.scheme container name).Leads kind.scheme containerOther
      nameOther := by
  rintro ⟨text, -⟩
  have first := congrArg (fun text => text.toList.head?) text
  cases kind <;> cases other <;>
    simp [Reference.compose, scheme, MemoryDepot.scheme, DirectoryDepot.scheme,
      BucketDepot.scheme] at first different

end DepotKind

namespace Depot

/-- A depot of a kind, wherever it keeps what it remembers and over whatever channel it sends. -/
inductive OfKind : DepotKind → Depot δ → Prop
  | memory (place : Cell δ MemoryDepot) : OfKind .memory (MemoryDepot.depot place)
  | fileSystem (place : Cell δ DirectoryDepot) : OfKind .fileSystem (DirectoryDepot.depot place)
  | objectStore (send : StoreChannel δ) (place : Cell δ BucketDepot) :
      OfKind .objectStore (BucketDepot.depot send place)

/-- A depot refuses a reference as a bad one, whatever files and stores hold, and leaves all of the
world as it is. -/
structure Spurns (depot : Depot δ) (reference : Reference) : Prop where
  checkOut : ∀ world : World δ, Action.on (depot.checkOut reference) world =
    (.error (.badReference reference.text), world)
  checkOutStream : ∀ world : World δ, Action.on (depot.checkOutStream reference) world =
    (.error (.badReference reference.text), world)

end Depot

namespace MemoryDepot

variable {reference : Reference}
  (lacks : ∀ container name, ¬ reference.Leads scheme container name)
include lacks

theorem find_of_not_leads (depot : MemoryDepot) :
    depot.find reference = .error (.badReference reference.text) := by
  rw [find, Reference.locate_eq_error_iff.mpr ⟨lacks, rfl⟩]
  rfl

theorem spurns (place : Cell δ MemoryDepot) : (depot place).Spurns reference := by
  have refused (world : World δ) : Action.on (checkOut place reference) world =
      (.error (.badReference reference.text), world) := by
    rw [on_checkOut, find_of_not_leads lacks]
  exact ⟨refused, fun world => Action.on_bind_of_error (refused world) _⟩

end MemoryDepot

namespace DirectoryDepot

variable {reference : Reference}
  (lacks : ∀ container name, ¬ reference.Leads scheme container name)
include lacks

theorem blobPath_of_not_leads (depot : DirectoryDepot) :
    depot.blobPath reference = .error (.badReference reference.text) := by
  rw [blobPath, Reference.locate_eq_error_iff.mpr ⟨lacks, rfl⟩]
  rfl

theorem spurns (place : Cell δ DirectoryDepot) : (depot place).Spurns reference where
  checkOut _ := Action.on_bind_of_error (on_openBlob_of_error (blobPath_of_not_leads lacks _)) _
  checkOutStream _ :=
    Action.on_bind_of_error (on_openBlob_of_error (blobPath_of_not_leads lacks _)) _

end DirectoryDepot

namespace BucketDepot

variable {reference : Reference}
  (lacks : ∀ container name, ¬ reference.Leads scheme container name)
include lacks

/-- Nothing is requested, whatever the channel would do with a request. -/
theorem on_download_of_not_leads (send : StoreChannel δ) (world : World δ) :
    Action.on (download send reference) world =
      (.error (.badReference reference.text), world) := by
  rw [download, Action.on_ofExcept_bind, Reference.locate_eq_error_iff.mpr ⟨lacks, rfl⟩]

theorem spurns (send : StoreChannel δ) (place : Cell δ BucketDepot) :
    (depot send place).Spurns reference where
  checkOut world := Action.on_bind_of_error (on_download_of_not_leads lacks send world) _
  checkOutStream world := Action.on_bind_of_error (on_download_of_not_leads lacks send world) _

end BucketDepot

theorem Depot.OfKind.spurns {kind : DepotKind} {depot : Depot δ} {reference : Reference}
    (ofKind : depot.OfKind kind)
    (lacks : ∀ container name, ¬ reference.Leads kind.scheme container name) :
    depot.Spurns reference := by
  cases ofKind with
  | memory place => exact MemoryDepot.spurns lacks place
  | fileSystem place => exact DirectoryDepot.spurns lacks place
  | objectStore send place => exact BucketDepot.spurns lacks send place

/-- A reference leads to a container and a name exactly if it has the form for it, which it has for
at most one of each; any other reference is a bad one.  The references of one kind of depots lead
nowhere for any other kind, whatever container and name stand in them, and a depot refuses all that
lead nowhere for it before it turns to its files, its containers or its channel. -/
theorem Reference.locate_follows_grammar (δ : Type) :
    (∀ (scheme container name : String) (reference : Reference),
      reference.locate scheme = .ok (container, name) ↔
        reference.Leads scheme container name) ∧
    (∀ (scheme container name containerOther nameOther : String) (reference : Reference),
      reference.Leads scheme container name →
        reference.Leads scheme containerOther nameOther →
          container = containerOther ∧ name = nameOther) ∧
    (∀ (scheme : String) (reference : Reference) (fault : Fault),
      reference.locate scheme = .error fault ↔
        (∀ container name, ¬ reference.Leads scheme container name) ∧
          fault = .badReference reference.text) ∧
    (∀ kind other : DepotKind, other ≠ kind → ∀ container name : String,
      (compose other.scheme container name).locate kind.scheme =
        .error (.badReference (compose other.scheme container name).text)) ∧
    (∀ (kind : DepotKind) (depot : Depot δ), depot.OfKind kind → ∀ reference : Reference,
      (∀ container name, ¬ reference.Leads kind.scheme container name) →
        depot.Spurns reference) ∧
    ∀ (kind other : DepotKind) (depot : Depot δ), depot.OfKind kind → other ≠ kind →
      ∀ container name : String, depot.Spurns (compose other.scheme container name) :=
  ⟨fun _ _ _ _ => locate_eq_ok_iff, fun _ _ _ _ _ _ => Leads.unique,
    fun _ _ _ => locate_eq_error_iff,
    fun _ _ different container name => locate_eq_error_iff.mpr
      ⟨DepotKind.not_leads_of_ne different container name, rfl⟩,
    fun _ _ ofKind _ lacks => ofKind.spurns lacks,
    fun _ _ _ ofKind different container name =>
      ofKind.spurns (DepotKind.not_leads_of_ne different container name)⟩

/-- A container that is called like a scheme, slashes that are repeated, and a reference to an
object in the hands of a depot in memory. -/
theorem Reference.locate_follows_grammar_of_schemes :
    let depot : Depot MemoryDepot := MemoryDepot.depot .whole
    let foreign : Reference := compose DepotKind.objectStore.scheme "memory:" "7"
    Leads ⟨"memory://s3:/7"⟩ MemoryDepot.scheme "s3:" "7" ∧
      depot.Spurns ⟨"memory://s3://orders/7"⟩ ∧ depot.Spurns foreign ∧
        foreign.locate DirectoryDepot.scheme = .error (.badReference "s3://memory:/7") := by
  intro depot foreign
  obtain ⟨leads, -, nowhere, foreigners, spurns, spurnsForeigners⟩ :=
    locate_follows_grammar MemoryDepot
  have ofKind : depot.OfKind .memory := .memory .whole
  refine ⟨(leads _ _ _ _).mp (by decide), spurns _ _ ofKind _ ?_,
    spurnsForeigners .memory .objectStore _ ofKind (by decide) _ _,
    foreigners .fileSystem .objectStore (by decide) _ _⟩
  exact ((nowhere _ _ (.badReference "memory://s3://orders/7")).mp (by decide)).1

end PayloadDepot
