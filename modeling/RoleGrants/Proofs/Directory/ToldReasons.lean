import RoleGrants.Proofs.Directory.Connection
import RoleGrants.Proofs.Redaction.Clean

/-!
# Reasons that a live directory tells

When a cluster does not list its namespaces, its failure is told in the log and in the reply: its
reason with its status, or its kind if it gives no reason.  None of this is sanitized.  So it is
clean for some failures only, and a reason that is not clean makes all that is told so, with a
status behind it or without one (`refusal_told`).
-/

namespace RoleGrants

open RoleGrants.Redaction

namespace Failure

variable {f : Failure}

/-- What is told begins with the reason, and goes on behind a blank if it does. -/
theorem exists_clusterReason_eq (h : f.reason ≠ .null) :
    ∃ more, f.clusterReason = f.reason.plain ++ more ∧ OpensBlank more.toList := by
  unfold clusterReason
  split
  next hnull => exact absurd hnull h
  next => exact ⟨"", String.append_empty.symm, nofun⟩
  next =>
    refine ⟨" (HTTP " ++ f.status.plain ++ ")", by simp only [String.append_assoc], ?_⟩
    rw [String.toList_append, String.toList_append]
    exact opensBlank_cons.mpr (by decide)

/-- A reason is told with all that is in it. -/
theorem clean_reason (h : f.reason ≠ .null) (told : Clean f.clusterReason) :
    Clean f.reason.plain := by
  obtain ⟨more, heq, hopens⟩ := exists_clusterReason_eq h
  rw [heq] at told
  exact told.of_append hopens

/-- What is told has the signs of its parts only. -/
theorem clean_of_parts
    (h : ∀ part ∈ [f.kind, f.reason.plain, f.status.plain],
      '=' ∉ part.toList ∧ ':' ∉ part.toList) : Clean f.clusterReason := by
  have hkind := h f.kind (by simp)
  have hreason := h f.reason.plain (by simp)
  have hstatus := h f.status.plain (by simp)
  unfold clusterReason
  split
  next => exact clean_of_no_separator hkind.1 hkind.2
  next => exact clean_of_no_separator hreason.1 hreason.2
  next =>
    have hsign {c : Char} (hopening : c ∉ " (HTTP ".toList) (hclosing : c ∉ ")".toList)
        (hfirst : c ∉ f.reason.plain.toList) (hlast : c ∉ f.status.plain.toList) :
        c ∉ (f.reason.plain ++ " (HTTP " ++ f.status.plain ++ ")").toList := by
      simp only [String.toList_append, List.mem_append, not_or]
      exact ⟨⟨⟨hfirst, hopening⟩, hlast⟩, hclosing⟩
    exact clean_of_no_separator (hsign (by decide) (by decide) hreason.1 hstatus.1)
      (hsign (by decide) (by decide) hreason.2 hstatus.2)

end Failure

namespace ClusterDirectory

/-- The record of a failure to list namespaces. -/
def refusedRecord (query reason : String) : LogRecord :=
  ⟨.error, "namespace_directory.list_failed",
    [("label_selector", .text query), ("reason", .text reason)]⟩

variable {d d' : ClusterDirectory} {records : List LogRecord} {f : Failure}

theorem directory_of_listing_failed (connects : d.connect = (.ok records, d'))
    (fails : d'.cluster.answerListing.1 = .failed f) (s : Selector) :
    (directory s d).1 = .lookupFailed s.query f.clusterReason (some f.kind) ∧
      (directory s d).2.1 = records ++ [refusedRecord s.query f.clusterReason] := by
  unfold directory
  simp only [connects, listing_eq, fails]
  exact ⟨trivial, rfl⟩

/-- When the cluster does not list its namespaces, one text is told of its failure, in the reply and
in the log.  That text is clean if no link with credentials stands in it and its secrets are veiled;
it is not if the reason of the failure is not; and it is if there is no equals sign and no colon in
the failure. -/
theorem refusal_told (connects : d.connect = (.ok records, d'))
    (fails : d'.cluster.answerListing.1 = .failed f) (s : Selector) :
    let told := f.clusterReason
    (directory s d).1 = .lookupFailed s.query told (some f.kind) ∧
    (directory s d).2.1 = records ++ [refusedRecord s.query told] ∧
    (Clean told ↔ (∀ l : Link, ¬ l.text <:+: told.toList) ∧
      ∀ pieces, Leftmost secretForm pieces → written Secret.text pieces = told.toList →
        ∀ a, .passage a ∈ pieces → a.IsVeiled) ∧
    (f.reason ≠ .null → ¬ Clean f.reason.plain → ¬ Clean told) ∧
    ((∀ part ∈ [f.kind, f.reason.plain, f.status.plain],
      '=' ∉ part.toList ∧ ':' ∉ part.toList) → Clean told) := by
  intro told
  obtain ⟨replied, logged⟩ := directory_of_listing_failed connects fails s
  exact ⟨replied, logged, clean_iff, fun given unclean clean => unclean (f.clean_reason given clean),
    f.clean_of_parts⟩

/-- A directory with a connection to a cluster that refuses to list its namespaces. -/
def refusedBy (status : Int) (reason : String) : ClusterDirectory :=
  ofClient .default ⟨[], [], [.failed ⟨"ApiException", "", .int status, .text reason⟩]⟩

/-- What a cluster says of missing rights is clean. -/
theorem forbidden_told :
    (refusedBy 403 "Forbidden").connect = (.ok [], refusedBy 403 "Forbidden") ∧
      (refusedBy 403 "Forbidden").cluster.answerListing.1 =
        .failed ⟨"ApiException", "", .int 403, .text "Forbidden"⟩ ∧
      (directory ⟨none, none⟩ (refusedBy 403 "Forbidden")).1 =
        .lookupFailed "" "Forbidden (HTTP 403)" (some "ApiException") ∧
      Clean "Forbidden (HTTP 403)" := by
  obtain ⟨replied, -, -, -, clean⟩ := refusal_told (d := refusedBy 403 "Forbidden") rfl rfl
    ⟨none, none⟩
  exact ⟨rfl, rfl, replied, clean (by decide)⟩

/-- A token in the reason of a cluster is told to the log and in the reply, though sanitizing would
have veiled it. -/
theorem token_told :
    (directory ⟨none, none⟩ (refusedBy 401 "Unauthorized: token=abc123")).1 =
        .lookupFailed "" "Unauthorized: token=abc123 (HTTP 401)" (some "ApiException") ∧
      (directory ⟨none, none⟩ (refusedBy 401 "Unauthorized: token=abc123")).2.1 =
        [refusedRecord "" "Unauthorized: token=abc123 (HTTP 401)"] ∧
      sanitize "Unauthorized: token=abc123 (HTTP 401)" =
        "Unauthorized: token=<REDACTED> (HTTP 401)" ∧
      ¬ Clean "Unauthorized: token=abc123 (HTTP 401)" := by
  have veiled : sanitize "Unauthorized: token=abc123 (HTTP 401)" =
      "Unauthorized: token=<REDACTED> (HTTP 401)" := by decide +kernel
  refine ⟨rfl, rfl, veiled, fun clean => ?_⟩
  have same := veiled.symm.trans (clean 500 (by decide))
  revert same
  decide

end ClusterDirectory

end RoleGrants
