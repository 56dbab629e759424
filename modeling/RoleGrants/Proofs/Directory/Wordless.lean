import RoleGrants.Directory.Cluster
import RoleGrants.Log.Line
import RoleGrants.Proofs.Resolution.Alike
import RoleGrants.Trace.Resolution

/-!
# The texts of failures stay with the cluster

The text of a failure may hold request headers and bodies, and with them credentials.  A live
directory passes on the kind of a failure, its status and its reason, and never its text.

To say so, the texts are taken away: `ClusterDirectory.wordless` is the directory on a cluster whose
failures have none.  It replies and logs as the directory itself (`directory_wordless`), one lemma
for each way the directory deals with the cluster.  Hence two clusters that differ in the texts of
their failures alone are alike to every resolution, and nothing that is seen of it tells them apart:
`failure_texts_unseen`.
-/

namespace RoleGrants

/-! ## Taking the texts away -/

/-- A failure without its text. -/
def Failure.wordless (f : Failure) : Failure := { f with message := "" }

/-- An answer of the cluster without the text of its failure. -/
def Listing.wordless : Listing → Listing
  | .names found => .names found
  | .failed f => .failed f.wordless

/-- A cluster whose failures have no texts. -/
def Cluster.wordless (c : Cluster) : Cluster where
  inCluster := c.inCluster.map (Option.map Failure.wordless)
  kubeconfig := c.kubeconfig.map (Option.map Failure.wordless)
  listings := c.listings.map Listing.wordless

/-- A directory on a cluster whose failures have no texts. -/
def ClusterDirectory.wordless (d : ClusterDirectory) : ClusterDirectory :=
  { d with cluster := d.cluster.wordless }

@[simp] theorem Failure.wordless_kind (f : Failure) : f.wordless.kind = f.kind := rfl

@[simp] theorem Failure.wordless_clusterReason (f : Failure) :
    f.wordless.clusterReason = f.clusterReason := rfl

theorem takeTurn_map {α β : Type} (f : α → β) (answers : List α) :
    takeTurn (answers.map f) = ((takeTurn answers).1.map f, (takeTurn answers).2.map f) := by
  cases answers with
  | nil => rfl
  | cons a rest => cases rest <;> rfl

/-- The outcome of a step that may fail, without the text of the failure. -/
def wordlessOutcome {α : Type} : Except Failure α → Except Failure α
  | .ok a => .ok a
  | .error f => .error f.wordless

/-! ## Dealing with the cluster -/

namespace ClusterDirectory

variable (d : ClusterDirectory)

@[simp] theorem wordless_recordCall (call : ClusterCall) :
    (d.recordCall call).wordless = d.wordless.recordCall call := rfl

theorem tryInCluster_wordless :
    d.wordless.tryInCluster =
      (d.tryInCluster.1.map Failure.wordless, d.tryInCluster.2.wordless) := by
  have hturn := takeTurn_map (Option.map Failure.wordless) d.cluster.inCluster
  simp only [tryInCluster, wordless, Cluster.wordless, hturn]
  cases (takeTurn d.cluster.inCluster).1 <;> rfl

theorem tryKubeconfig_wordless (call : ClusterCall) :
    d.wordless.tryKubeconfig call =
      ((d.tryKubeconfig call).1.map Failure.wordless, (d.tryKubeconfig call).2.wordless) := by
  have hturn := takeTurn_map (Option.map Failure.wordless) d.cluster.kubeconfig
  simp only [tryKubeconfig, wordless, Cluster.wordless, hturn]
  cases (takeTurn d.cluster.kubeconfig).1 <;> rfl

theorem listing_wordless (query : String) :
    d.wordless.listing query = ((d.listing query).1.wordless, (d.listing query).2.wordless) := by
  have hturn := takeTurn_map Listing.wordless d.cluster.listings
  simp only [listing, wordless, Cluster.wordless, hturn]
  cases (takeTurn d.cluster.listings).1 <;> rfl

theorem configure_wordless :
    d.wordless.configure = (wordlessOutcome d.configure.1, d.configure.2.wordless) := by
  unfold configure
  have hconfig : d.wordless.config = d.config := rfl
  rw [hconfig]
  cases d.config.kubeconfigPath with
  | some path =>
      simp only [tryKubeconfig_wordless]
      match d.tryKubeconfig (.loadKubeconfig path d.config.context) with
      | (some f, d') => rfl
      | (none, d') => rfl
  | none =>
      simp only [tryInCluster_wordless]
      match d.tryInCluster with
      | (none, d') => rfl
      | (some f, d') =>
          -- Whether the default settings are tried depends on the kind alone.
          have hcontext : d'.wordless.config = d'.config := rfl
          simp only [Option.map_some, Failure.wordless_kind, hcontext]
          by_cases hkind : f.kind = Failure.configurationKind
          · simp only [if_pos hkind, tryKubeconfig_wordless]
            match d'.tryKubeconfig (.loadDefaultKubeconfig d'.config.context) with
            | (some f', d'') => rfl
            | (none, d'') => rfl
          · simp only [if_neg hkind]
            rfl

theorem connect_wordless :
    d.wordless.connect = (wordlessOutcome d.connect.1, d.connect.2.wordless) := by
  unfold connect
  have hconnected : d.wordless.connected = d.connected := rfl
  rw [hconnected]
  cases d.connected with
  | true => rfl
  | false =>
      simp only [configure_wordless]
      match d.configure with
      | (.error f, d') => rfl
      | (.ok record, d') => rfl

/-- A live directory replies and logs the same without the texts of the failures. -/
theorem directory_wordless (q : Selector) :
    directory q d.wordless =
      ((directory q d).1, (directory q d).2.1, (directory q d).2.2.wordless) := by
  unfold directory
  simp only [connect_wordless]
  match d.connect with
  | (.error f, d') => rfl
  | (.ok records, d') =>
      simp only [wordlessOutcome, listing_wordless]
      match d'.listing q.query with
      | (.names names, d'') => rfl
      | (.failed f, d'') => rfl

/-- Directories on clusters that differ in the texts of failures alone are alike. -/
theorem alike_of_wordless_eq (q : Selector) :
    Directory.Alike (fun x y => x.wordless = y.wordless) (some directory) (some directory) q := by
  intro x y same
  have hsame : directory q x.wordless = directory q y.wordless := by rw [same]
  rw [directory_wordless, directory_wordless] at hsame
  obtain ⟨hreply, hrest⟩ := Prod.mk.inj hsame
  exact ⟨hreply, Prod.mk.inj hrest⟩

end ClusterDirectory

/-! ## Resolutions -/

/-- Where two clusters differ in the texts of their failures alone, the resolutions of a definition
have the same result or error, events, queries and log lines, and the same calls are made; and the
audit events and the spans are the same. -/
theorem failure_texts_unseen (d : Definition) (x y : ClusterDirectory)
    (same : x.wordless = y.wordless) (c : SpanContext) :
    let r := d.traced c (some ClusterDirectory.directory) x
    let r' := d.traced c (some ClusterDirectory.directory) y
    d.resolved (some ClusterDirectory.directory) x =
        d.resolved (some ClusterDirectory.directory) y ∧
      r.result = r'.result ∧ r.events = r'.events ∧ r.queries = r'.queries ∧
      r.audits = r'.audits ∧ r.spans = r'.spans ∧
      (∀ settings time, (r.log d.name).map (Log.line settings time c) =
        (r'.log d.name).map (Log.line settings time c)) ∧
      r.directory.calls = r'.directory.calls := by
  intro r r'
  have halike : ∀ q ∈ d.selectors, Directory.Alike (fun x y => x.wordless = y.wordless)
      (some ClusterDirectory.directory) (some ClusterDirectory.directory) q :=
    fun q _ => ClusterDirectory.alike_of_wordless_eq q
  obtain ⟨hresult, hsteps, hlast⟩ := traced_alike halike same c
  have hlog : r.log d.name = r'.log d.name := by
    unfold Definition.Run.log
    rw [hsteps]
  exact ⟨resolved_alike halike same, hresult, congrArg eventsOf hsteps, congrArg queriesOf hsteps,
    congrArg auditsOf hsteps, congrArg (SpanRecord.ofMarks <| marksOf ·) hsteps,
    fun settings time => by rw [hlog], (congrArg ClusterDirectory.calls hlast :)⟩

/-- A directory outside of any cluster, on a server that refuses with some texts. -/
def refusedDirectory (settingsText serverText : String) : ClusterDirectory :=
  .new .default
    { inCluster := [some ⟨"ConfigException", settingsText, .null, .null⟩]
      kubeconfig := [none]
      listings := [.failed ⟨"ApiException", serverText, .int 403, .text "Forbidden"⟩] }

/-- Status and reason of a refusal are told, and the token in its text is not. -/
theorem refusedDirectory_unseen :
    (refusedDirectory "no file" "(403) Bearer a1").wordless =
        (refusedDirectory "no such file" "(403) Bearer b2").wordless ∧
      teamAccess.resolved (some ClusterDirectory.directory)
          (refusedDirectory "no file" "(403) Bearer a1") =
        teamAccess.resolved (some ClusterDirectory.directory)
          (refusedDirectory "no such file" "(403) Bearer b2") ∧
      teamAccess.resolved (some ClusterDirectory.directory)
          (refusedDirectory "no file" "(403) Bearer a1") =
        .error (.lookup "env=test" "Forbidden (HTTP 403)" (some "ApiException")) :=
  ⟨rfl, (failure_texts_unseen teamAccess (refusedDirectory "no file" "(403) Bearer a1")
    (refusedDirectory "no such file" "(403) Bearer b2") rfl .invalid).1, by rfl⟩

end RoleGrants
