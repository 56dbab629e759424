import RoleGrants.Directory.Cluster

/-!
# When a live directory connects

A live directory makes its connection when it is first asked, and keeps it. Here a whole session is
followed, one query after the other, on a cluster that may answer anything at any time.

A query is of one of three kinds: it finds no configuration (`Exchange.Unconfigured`), it makes the
connection and asks (`Exchange.Connects`), or it asks with the connection that is there
(`Exchange.Asks`). Which of them it is depends on the directory before it alone, and a session is
some queries of the first kind, then at most one of the second, then queries of the third
(`connects_once`).
-/

namespace RoleGrants

/-! ## What the cluster answers -/

/-- The reply of a live directory, by the answer of the cluster: the names in the order in which the
cluster lists them, or that the lookup failed. -/
def Listing.reply (query : String) : Listing → Reply
  | .names found => .names (.array found)
  | .failed f => .lookupFailed query f.clusterReason (some f.kind)

namespace Cluster

/-- The next answer to the configuration from inside the cluster, and the cluster after it. -/
def answerInside (c : Cluster) : Option Failure × Cluster :=
  ((takeTurn c.inCluster).1.getD (some ClusterDirectory.noConfiguration),
    { c with inCluster := (takeTurn c.inCluster).2 })

/-- The next answer to a settings file, and the cluster after it. -/
def answerSettings (c : Cluster) : Option Failure × Cluster :=
  ((takeTurn c.kubeconfig).1.getD (some ClusterDirectory.noConfiguration),
    { c with kubeconfig := (takeTurn c.kubeconfig).2 })

/-- The next answer to the listing of namespaces, and the cluster after it. -/
def answerListing (c : Cluster) : Listing × Cluster :=
  ((takeTurn c.listings).1.getD (.names []), { c with listings := (takeTurn c.listings).2 })

/-- The ways in which settings configure a connection: the calls that are made, the failure if it
comes to none, and the cluster after it. -/
inductive Configures (config : ClusterConfig) (c : Cluster) :
    List ClusterCall → Option Failure → Cluster → Prop
  /-- Settings name a file. Nothing else is tried. -/
  | file {path : String} (hpath : config.kubeconfigPath = some path) :
    Configures config c [.loadKubeconfig path config.context] c.answerSettings.1 c.answerSettings.2
  /-- They name none, and there is a configuration inside the cluster. -/
  | inside (hpath : config.kubeconfigPath = none) (h : c.answerInside.1 = none) :
    Configures config c [.loadInCluster] none c.answerInside.2
  /-- There may be one, but it fails. -/
  | broken {f : Failure} (hpath : config.kubeconfigPath = none) (h : c.answerInside.1 = some f)
      (hkind : f.kind ≠ Failure.configurationKind) :
    Configures config c [.loadInCluster] (some f) c.answerInside.2
  /-- There is none, and the default settings file is tried. -/
  | outside {f : Failure} (hpath : config.kubeconfigPath = none) (h : c.answerInside.1 = some f)
      (hkind : f.kind = Failure.configurationKind) :
    Configures config c [.loadInCluster, .loadDefaultKubeconfig config.context]
      c.answerInside.2.answerSettings.1 c.answerInside.2.answerSettings.2

end Cluster

namespace ClusterDirectory

open Cluster (Configures)

/-! ## Single steps -/

/-- The directory after calls, in the order in which they were made, on what is left of its
cluster. -/
def made (calls : List ClusterCall) (c : Cluster) (d : ClusterDirectory) : ClusterDirectory :=
  { d with cluster := c, calls := calls.reverse ++ d.calls }

/-- The directory with a connection. -/
def linked (d : ClusterDirectory) : ClusterDirectory := { d with connected := true }

variable (d : ClusterDirectory)

theorem tryInCluster_eq :
    d.tryInCluster =
      (d.cluster.answerInside.1, d.made [.loadInCluster] d.cluster.answerInside.2) := rfl

theorem tryKubeconfig_eq (call : ClusterCall) :
    d.tryKubeconfig call =
      (d.cluster.answerSettings.1, d.made [call] d.cluster.answerSettings.2) := rfl

theorem listing_eq (query : String) :
    d.listing query =
      (d.cluster.answerListing.1, d.made [.listNamespaces query] d.cluster.answerListing.2) := rfl

/-- How an attempt to configure a connection may come out. -/
inductive Configured : Except Failure LogRecord × ClusterDirectory → Prop
  | fails {loads : List ClusterCall} {f : Failure} {c : Cluster}
    (h : Configures d.config d.cluster loads (some f) c) : Configured (.error f, d.made loads c)
  | succeeds {loads : List ClusterCall} {c : Cluster} (record : LogRecord)
    (h : Configures d.config d.cluster loads none c) : Configured (.ok record, d.made loads c)

theorem configured_configure : d.Configured d.configure := by
  unfold configure
  cases hpath : d.config.kubeconfigPath with
  | some path =>
    simp only [tryKubeconfig_eq]
    have h := Configures.file hpath (c := d.cluster)
    cases hsettings : d.cluster.answerSettings.1 with
    | none =>
      rw [hsettings] at h
      exact .succeeds _ h
    | some f =>
      rw [hsettings] at h
      exact .fails h
  | none =>
    simp only [tryInCluster_eq]
    cases hinside : d.cluster.answerInside.1 with
    | none => exact .succeeds _ (.inside hpath hinside)
    | some f =>
      by_cases hkind : f.kind = Failure.configurationKind
      · simp only [if_pos hkind, tryKubeconfig_eq]
        have h := Configures.outside hpath hinside hkind
        cases hsettings : d.cluster.answerInside.2.answerSettings.1 with
        | none =>
          rw [hsettings] at h
          simp only [made, hsettings]
          exact .succeeds _ h
        | some g =>
          rw [hsettings] at h
          simp only [made, hsettings]
          exact .fails h
      · simp only [if_neg hkind]
        exact .fails (.broken hpath hinside hkind)

/-! ## Sessions -/

/-- A query of a session: the directory before it, what it replied, and the directory after it. -/
structure Exchange where
  selector : Selector
  before : ClusterDirectory
  reply : Reply
  after : ClusterDirectory

/-- Asks the directory. -/
def ask (s : Selector) (d : ClusterDirectory) : Exchange :=
  ⟨s, d, (directory s d).1, (directory s d).2.2⟩

/-- Asks the directory one query after the other. -/
def session : List Selector → ClusterDirectory → List Exchange
  | [], _ => []
  | s :: rest, d => d.ask s :: session rest (d.ask s).after

namespace Exchange

/-- The query finds no configuration. The cluster is not asked for namespaces, and the directory is
as it was but for the calls. -/
def Unconfigured (config : ClusterConfig) (e : Exchange) : Prop :=
  ∃ loads f c, Configures config e.before.cluster loads (some f) c ∧
    e.after = e.before.made loads c ∧
    e.reply =
      .lookupFailed "" ("Failed to load Kubernetes configuration: " ++ f.kind) (some f.kind)

/-- The query finds a configuration and makes the connection, and then asks for namespaces. -/
def Connects (config : ClusterConfig) (e : Exchange) : Prop :=
  ∃ loads c, Configures config e.before.cluster loads none c ∧
    e.after = e.before.linked.made (loads ++ [.makeClient, .listNamespaces e.selector.query])
      c.answerListing.2 ∧
    e.reply = c.answerListing.1.reply e.selector.query

/-- The query asks for namespaces, and does nothing else. -/
def Asks (e : Exchange) : Prop :=
  e.after = e.before.made [.listNamespaces e.selector.query] e.before.cluster.answerListing.2 ∧
    e.reply = e.before.cluster.answerListing.1.reply e.selector.query

end Exchange

variable {d}

/-- What a directory does once it is connected, with what is told of the connection. -/
theorem directory_of_connect_ok {d' : ClusterDirectory} {records : List LogRecord}
    (connected : d.connect = (.ok records, d')) (s : Selector) :
    (directory s d).1 = d'.cluster.answerListing.1.reply s.query ∧
      (directory s d).2.2 = d'.made [.listNamespaces s.query] d'.cluster.answerListing.2 := by
  unfold directory
  simp only [connected, listing_eq]
  cases d'.cluster.answerListing.1 with
  | names found => exact ⟨rfl, rfl⟩
  | failed f => exact ⟨rfl, rfl⟩

theorem asks_of_connected (connected : d.connected = true) (s : Selector) : (d.ask s).Asks := by
  have hconnect : d.connect = (.ok [], d) := by
    unfold connect
    rw [if_pos connected]
  obtain ⟨hreply, hafter⟩ := directory_of_connect_ok hconnect s
  exact ⟨hafter, hreply⟩

theorem ask_of_not_connected (connected : d.connected = false) (s : Selector) :
    ((d.ask s).Unconfigured d.config ∧ (d.ask s).after.connected = false ∧
        (d.ask s).after.config = d.config) ∨
      ((d.ask s).Connects d.config ∧ (d.ask s).after.connected = true) := by
  have hconfigure := d.configured_configure
  generalize hr : d.configure = r at hconfigure
  have hnot : ¬ d.connected = true := by simp [connected]
  cases hconfigure with
  | @fails loads f c h =>
    have hconnect : d.connect = (.error f, d.made loads c) := by
      unfold connect
      rw [if_neg hnot, hr]
    left
    have hafter : (d.ask s).after = d.made loads c := by
      simp only [ask, directory, hconnect]
    have hreply : (d.ask s).reply = .lookupFailed ""
        ("Failed to load Kubernetes configuration: " ++ f.kind) (some f.kind) := by
      simp only [ask, directory, hconnect]
    refine ⟨⟨loads, f, c, h, hafter, hreply⟩, ?_, ?_⟩
    · rw [hafter]
      exact connected
    · rw [hafter]
      rfl
  | @succeeds loads c record h =>
    let d' : ClusterDirectory := d.linked.made (loads ++ [.makeClient]) c
    have hconnect : d.connect = (.ok [record], d') := by
      unfold connect
      rw [if_neg hnot, hr]
      simp [d', linked, made, recordCall]
    obtain ⟨hreply, hafter⟩ := directory_of_connect_ok hconnect s
    right
    refine ⟨⟨loads, c, h, ?_, hreply⟩, ?_⟩
    · show (directory s d).2.2 = _
      rw [hafter]
      simp [d', made, ask]
    · show (directory s d).2.2.connected = true
      rw [hafter]
      rfl

theorem session_of_connected (connected : d.connected = true) (selectors : List Selector) :
    ∀ e ∈ d.session selectors, e.Asks := by
  induction selectors generalizing d with
  | nil =>
    intro e he
    cases he
  | cons s rest ih =>
    have hasks := asks_of_connected connected s
    intro e he
    rcases List.mem_cons.mp he with rfl | he
    · exact hasks
    · apply ih _ e he
      rw [hasks.1]
      exact connected

theorem session_of_not_connected (connected : d.connected = false) (selectors : List Selector) :
    ∃ failing later, d.session selectors = failing ++ later ∧
      (∀ e ∈ failing, e.Unconfigured d.config) ∧
      (later = [] ∨ ∃ first rest, later = first :: rest ∧ first.Connects d.config ∧
        ∀ e ∈ rest, e.Asks) := by
  induction selectors generalizing d with
  | nil => exact ⟨[], [], rfl, by simp, .inl rfl⟩
  | cons s rest ih =>
    rcases ask_of_not_connected connected s with ⟨hfails, hafter, hconfig⟩ | ⟨hconnects, hafter⟩
    · obtain ⟨failing, later, hsession, hfailing, hlater⟩ := ih hafter
      rw [hconfig] at hfailing hlater
      refine ⟨d.ask s :: failing, later, ?_, ?_, hlater⟩
      · rw [session, hsession, List.cons_append]
      · intro e he
        rcases List.mem_cons.mp he with rfl | he
        · exact hfails
        · exact hfailing e he
    · exact ⟨[], _, rfl, by simp, .inr ⟨_, _, rfl, hconnects, session_of_connected hafter rest⟩⟩

/-- A directory that was given its connection asks for namespaces at every query and does nothing
else. Any other tries to configure a connection at every query until that comes to no failure, then
makes the connection, and from then on does nothing but ask, whether the cluster answers or not. A
query that finds no configuration does not ask. What is replied is what the cluster lists, in its
order, or that the lookup failed. -/
theorem connects_once (config : ClusterConfig) (cluster : Cluster) (selectors : List Selector) :
    (∀ e ∈ (ofClient config cluster).session selectors, e.Asks) ∧
      ∃ failing later, (new config cluster).session selectors = failing ++ later ∧
        (∀ e ∈ failing, e.Unconfigured config) ∧
        (later = [] ∨ ∃ first rest, later = first :: rest ∧ first.Connects config ∧
          ∀ e ∈ rest, e.Asks) :=
  ⟨session_of_connected rfl selectors, session_of_not_connected rfl selectors⟩

/-- The first query finds no configuration anywhere. The second makes the connection, which is kept
though the cluster does not answer, and the third asks again. -/
example :
    let missing : Failure := .ofKind Failure.configurationKind
    let cluster : Cluster :=
      ⟨[some missing, none], [some missing], [.failed (.ofKind "ApiException"), .names [.text "qa"]]⟩
    let everything : Selector := ⟨none, none⟩
    ((new .default cluster).session [everything, everything, everything]).map (·.after.calls.length) =
      [2, 5, 6] := rfl

end ClusterDirectory

end RoleGrants
