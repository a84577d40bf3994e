import BraceScript.Proofs.Run.Conduct
import BraceScript.Subtags.Standard

namespace BraceScript

/-- Started while the run is running and with the marked parameters settled, the script follows a
course. -/
def Orderly (svc : Services) (eval : Eval) (n : Nat) (eager : Nat → Bool)
    (body : Invocation → Action (Option String)) : Prop :=
  ∀ c, Leads svc eval n (Activation.Ready eager) (body c) fun _ _ ↦ True

namespace Subtags

open Activation (Bound Ready)
open Leads (value valueAt values)

variable {svc : Services} {eval : Eval} {n : Nat} {eager : Nat → Bool} {P : Activation → Prop}

section

variable {α : Type}

theorem running_of_ready (t : Activation) (h : t.Ready eager) : t.state.isRunning = true := h.1

theorem leads_done {v : α} : Leads svc eval n P (pure v) fun _ _ ↦ True :=
  .pure fun _ _ ↦ trivial

theorem leads_settle (r : Except Error α) :
    Leads svc eval n (Ready eager) (Action.settle r) fun _ ↦ Ready eager :=
  .settle running_of_ready fun _ _ h ↦ h

theorem leads_ofOption (e : Error) (o : Option α) :
    Leads svc eval n (Ready eager) (Action.ofOption e o) fun _ ↦ Ready eager :=
  .ofOption running_of_ready fun _ _ h ↦ h

theorem leads_failing {β : Type} {f : α → Action β} {Q : β → Activation → Prop} (e : Error) :
    Leads svc eval n (Ready eager) (throw e >>= f) Q :=
  Leads.bind (.throw (Q := fun _ _ ↦ False) e running_of_ready) fun _ _ _ h ↦ h.elim

end

theorem leads_resolveArray (text : String) :
    Leads svc eval n (Ready eager) (resolveArray text) fun _ ↦ Ready eager := by
  unfold resolveArray
  split
  · exact .pure fun _ h ↦ h
  · refine (Leads.getVariable _).bind fun v ↦ ?_
    split
    · exact .pure fun _ h ↦ h.1
    · exact .throw _ fun _ h ↦ h.1.1

theorem orderly_get (h₀ : eager 0 = true) : Orderly svc eval n eager get := fun _ ↦
  (value h₀).bind fun name ↦ (Leads.getVariable name).bind fun _ ↦ leads_done

theorem orderly_set (h₀ : eager 0 = true) (h₁ : eager 1 = true) :
    Orderly svc eval n eager set := by
  refine fun _ ↦ (value h₀).bind fun name ↦ (values h₁).bind fun texts ↦ ?_
  split
  · exact (Leads.resetVariable name).bind fun _ ↦ leads_done
  · exact (Leads.setVariable name _).bind fun _ ↦ leads_done
  · exact (Leads.setVariable name _).bind fun _ ↦ leads_done

theorem orderly_nothing : Orderly svc eval n eager nothing := fun _ ↦ leads_done

theorem orderly_shuffle (h₀ : eager 0 = true) : Orderly svc eval n eager shuffle := by
  refine fun _ ↦ (value h₀).bind fun text ↦ (leads_resolveArray text).bind fun array ↦
    (Leads.shuffle array.items).bind fun items ↦ ?_
  split
  · exact (Leads.setVariable _ _).bind fun _ ↦ leads_done
  · exact leads_done

theorem orderly_length (h₀ : eager 0 = true) : Orderly svc eval n eager length := fun _ ↦
  (value h₀).bind fun _ ↦ leads_done

theorem orderly_index (h₀ : eager 0 = true) (h₁ : eager 1 = true) :
    Orderly svc eval n eager index := fun _ ↦
  (value h₀).bind fun text ↦ (leads_resolveArray text).bind fun _ ↦ (value h₁).bind fun _ ↦
    (leads_ofOption _ _).bind fun _ ↦ (leads_ofOption _ _).bind fun _ ↦ leads_done

theorem orderly_join (h₀ : eager 0 = true) (h₁ : eager 1 = true) :
    Orderly svc eval n eager join := fun _ ↦
  (value h₀).bind fun text ↦ (leads_resolveArray text).bind fun _ ↦ (value h₁).bind fun _ ↦
    leads_done

theorem orderly_discard (heval : Follows svc n eval) : Orderly svc eval n eager discard := by
  have hfrom (start count : Nat) :
      Leads svc eval n (Bound eager) (evaluateFrom start count) fun _ _ ↦ True := by
    induction count generalizing start with
    | zero => exact leads_done
    | succ count ih =>
      refine Leads.isRunning.bind fun running ↦ ?_
      cases running with
      | false => exact leads_done
      | true =>
        have hread := (Leads.deferred heval 0 start).bind fun _ ↦ ih (start + 1)
        exact hread.mono (fun _ h ↦ h.1) fun _ _ h ↦ h
  exact fun _ ↦ (Leads.count 0).bind fun count ↦ (hfrom 0 count).ofBound.bind fun _ ↦ leads_done

theorem orderly_leave (h₀ : eager 0 = true) : Orderly svc eval n eager leave := fun _ ↦
  (value h₀).bind fun _ ↦ (leads_ofOption _ _).bind fun forced ↦
    (Leads.leave forced).bind fun _ ↦ leads_done

theorem orderly_tryCatch (heval : Follows svc n eval) : Orderly svc eval n eager tryCatch := by
  refine fun _ ↦ (Leads.attempt heval 0).ofBound.bind fun text? ↦ ?_
  cases text? with
  | some text => exact leads_done
  | none => exact (Leads.deferred heval 1 0).bind fun _ ↦ leads_done

theorem orderly_raise (h₀ : eager 0 = true) : Orderly svc eval n eager raise := fun _ ↦
  (value h₀).bind fun _ ↦ .throw _ running_of_ready

theorem leads_branch (heval : Follows svc n eval) (condition : Bool) (slot : Nat) :
    Leads svc eval n (Ready eager) (branch condition slot) fun _ _ ↦ True := by
  refine (Leads.isSupplied _).bind fun supplied ↦ ?_
  cases supplied with
  | false => exact leads_done
  | true => exact (Leads.deferred heval _ 0).ofBound.bind fun _ ↦ leads_done

theorem orderly_ifTrue (heval : Follows svc n eval) (h₀ : eager 0 = true) :
    Orderly svc eval n eager ifTrue := fun _ ↦
  (value h₀).bind fun _ ↦ (leads_ofOption _ _).bind fun condition ↦ leads_branch heval condition 1

theorem orderly_ifCompare (heval : Follows svc n eval) (h₀ : eager 0 = true) (h₁ : eager 1 = true)
    (h₂ : eager 2 = true) : Orderly svc eval n eager ifCompare := fun _ ↦
  (value h₀).bind fun _ ↦ (value h₁).bind fun _ ↦ (value h₂).bind fun _ ↦
    (leads_settle _).bind fun condition ↦ leads_branch heval condition 3

theorem orderly_choose (heval : Follows svc n eval) (h₀ : eager 0 = true) :
    Orderly svc eval n eager choose := by
  refine fun _ ↦ (value h₀).bind fun _ ↦ (leads_ofOption _ _).bind fun index ↦
    (Leads.count 1).bind fun count ↦ ?_
  split
  · exact (Leads.deferred heval 1 index.toNat).ofBound.bind fun _ ↦ leads_done
  · exact .throw _ running_of_ready

theorem orderly_chooseAtRandom (heval : Follows svc n eval) :
    Orderly svc eval n eager chooseAtRandom := by
  refine fun _ ↦ (Leads.count 0).bind fun count ↦ (Leads.pick count).bind fun index ↦ ?_
  split
  · exact (Leads.deferred heval 0 index).ofBound.bind fun _ ↦ leads_done
  · exact leads_done

section Loops

variable {body : Action String} {next : String → Action String}

theorem leads_iteration (output : String)
    (hbody : Leads svc eval n (Ready eager) (Action.iterate >>= fun _ ↦ body) fun _ ↦ Bound eager)
    (hnext : ∀ output, Leads svc eval n (Bound eager) (next output) fun _ ↦ Bound eager) :
    Leads svc eval n (Bound eager) (iteration body output next) fun _ ↦ Bound eager := by
  refine Leads.isRunning.bind fun running ↦ ?_
  cases running with
  | false => exact .pure fun _ h ↦ h.1
  | true =>
    have hrun := Leads.assoc (hbody.bind fun text ↦ hnext (output ++ text))
    exact hrun.mono (fun _ h ↦ ⟨h.2 rfl, h.1⟩) fun _ _ h ↦ h

theorem leads_times {body : Nat → Action String} (count start : Nat) (output : String)
    (hbody : ∀ i, Leads svc eval n (Ready eager) (Action.iterate >>= fun _ ↦ body i) fun _ ↦
      Bound eager) :
    Leads svc eval n (Bound eager) (times body count start output) fun _ ↦ Bound eager := by
  induction count generalizing start output with
  | zero => exact .pure fun _ h ↦ h
  | succ count ih => exact leads_iteration output (hbody start) (ih (start + 1))

theorem leads_each {α : Type} {body : α → Action String} (items : List α) (output : String)
    (hbody : ∀ item, Leads svc eval n (Ready eager) (Action.iterate >>= fun _ ↦ body item) fun _ ↦
      Bound eager) :
    Leads svc eval n (Bound eager) (each body items output) fun _ ↦ Bound eager := by
  induction items generalizing output with
  | nil => exact .pure fun _ h ↦ h
  | cons item items ih => exact leads_iteration output (hbody item) ih

end Loops

theorem orderly_repeatCode (heval : Follows svc n eval) (h₁ : eager 1 = true) :
    Orderly svc eval n eager repeatCode := by
  refine fun _ ↦ (value h₁).bind fun _ ↦ (leads_ofOption _ _).bind fun amount ↦ ?_
  split
  · exact leads_failing _
  · exact (leads_times amount.toNat 0 "" fun _ ↦ Leads.body heval 0).ofBound.bind fun _ ↦ leads_done

theorem orderly_forEach (heval : Follows svc n eval) (h₀ : eager 0 = true) (h₁ : eager 1 = true) :
    Orderly svc eval n eager forEach := by
  refine fun _ ↦ (value h₀).bind fun name ↦ (value h₁).bind fun text ↦
    (leads_resolveArray text).bind fun array ↦ (Leads.getVariable name).bind fun previous ↦ ?_
  have heach : Leads svc eval n (Bound eager)
      (each (fun item ↦ do Action.setVariable name item; Action.again 2) array.items "")
      fun _ ↦ Bound eager :=
    leads_each array.items "" fun item ↦ Leads.bodyWith heval name item 2
  exact fun t hn ht ↦ heach.restoring ht.2 previous t hn ht.1.2

theorem orderly_defineFunction (h₀ : eager 0 = true) :
    Orderly svc eval n eager defineFunction := by
  refine fun _ ↦ (value h₀).bind fun text ↦ ?_
  dsimp only
  split
  · exact leads_failing _
  · exact (Leads.define _ 1).bind fun _ ↦ leads_done

theorem orderly_callFunction (heval : Follows svc n eval) (h₀ : eager 0 = true) :
    Orderly svc eval n eager callFunction := by
  refine fun _ ↦ (Leads.hasFunction _).bind fun found ↦ ?_
  cases found with
  | false => exact .throw _ running_of_ready
  | true =>
    exact (values h₀).bind fun params ↦ (Leads.activate heval _ params).bind fun _ ↦ leads_done

theorem orderly_allParams : Orderly svc eval n eager allParams := fun _ ↦
  Leads.frame.bind fun _ ↦ leads_done

theorem orderly_param (h₀ : eager 0 = true) : Orderly svc eval n eager param := fun _ ↦
  (value h₀).bind fun _ ↦ (leads_ofOption _ _).bind fun _ ↦ Leads.frame.bind fun _ ↦
    (leads_ofOption _ _).bind fun _ ↦ leads_done

theorem orderly_setQuiet (h₀ : eager 0 = true) : Orderly svc eval n eager setQuiet := fun _ ↦
  (value h₀).bind fun _ ↦ (leads_ofOption _ _).bind fun quiet ↦
    (Leads.setQuiet quiet).bind fun _ ↦ leads_done

theorem orderly_clearFallback : Orderly svc eval n eager clearFallback := fun _ ↦
  (Leads.setFallback none).bind fun _ ↦ leads_done

theorem orderly_setFallback (h₀ : eager 0 = true) : Orderly svc eval n eager setFallback := fun _ ↦
  (value h₀).bind fun text ↦ (Leads.setFallback (some text)).bind fun _ ↦ leads_done

theorem orderly_constant (text : String) : Orderly svc eval n eager (constant text) := fun _ ↦
  leads_done

theorem orderly_escape : Orderly svc eval n eager escape := fun _ ↦
  (Leads.sources 0).bind fun _ ↦ leads_done

theorem orderly_math (h₀ : eager 0 = true) (h₁ : eager 1 = true) :
    Orderly svc eval n eager math := by
  refine fun _ ↦ (value h₀).bind fun _ ↦ (leads_ofOption _ _).bind fun apply ↦
    (values h₁).bind fun _ ↦ (leads_settle _).bind fun numbers ↦ ?_
  split
  · exact leads_done
  · dsimp only
    split
    · exact leads_done
    · exact .throw _ running_of_ready

theorem orderly_regexTest (h₀ : eager 0 = true) (h₁ : eager 1 = true) :
    Orderly svc eval n eager regexTest := fun _ ↦
  (value h₀).bind fun _ ↦ (value h₁).bind fun _ ↦ (leads_settle _).bind fun _ ↦ leads_done

theorem orderly_regexReplace (h₀ : eager 0 = true) (h₁ : eager 1 = true) (h₂ : eager 2 = true) :
    Orderly svc eval n eager regexReplace := fun _ ↦
  (value h₀).bind fun _ ↦ (value h₁).bind fun _ ↦ (value h₂).bind fun _ ↦
    (leads_settle _).bind fun _ ↦ leads_done

theorem orderly_lower (h₀ : eager 0 = true) : Orderly svc eval n eager lower := fun _ ↦
  (value h₀).bind fun _ ↦ leads_done

theorem leads_findEntity (h₀ : eager 0 = true) (h₁ : eager 1 = true) (c : Invocation)
    (kind : EntityKind) :
    Leads svc eval n (Ready eager) (findEntity c kind) fun _ ↦ Ready eager := by
  refine (value h₀).bind fun _ ↦ (value h₁).bind fun _ ↦ Leads.frame.bind fun _ ↦ ?_
  extract_lets quiet own query missing
  split
  · exact leads_failing _
  · exact (Leads.findEntity kind _ _).bind fun _ ↦ leads_ofOption _ _

theorem orderly_lookupId (h₀ : eager 0 = true) (h₁ : eager 1 = true) (kind : EntityKind) :
    Orderly svc eval n eager (lookupId kind) := fun c ↦
  (leads_findEntity h₀ h₁ c kind).bind fun _ ↦ leads_done

theorem orderly_lookupName (h₀ : eager 0 = true) (h₁ : eager 1 = true) (kind : EntityKind) :
    Orderly svc eval n eager (lookupName kind) := fun c ↦
  (leads_findEntity h₀ h₁ c kind).bind fun _ ↦ leads_done

theorem orderly_countUsers : Orderly svc eval n eager countUsers := fun _ ↦
  (Leads.listEntities .user).bind fun _ ↦ leads_done

end Subtags

def eagerSlots (patterns : List String) (i : Nat) : Bool :=
  patterns[i]?.any fun pattern ↦ (Parameter.readMode pattern.toList).1 == .eager

def Handler.Orderly (svc : Services) (eval : Eval) (n : Nat) (eager : Nat → Bool) : Handler → Prop
  | script body => BraceScript.Orderly svc eval n eager body
  | host _ => False

def Declaration.Orderly (svc : Services) (eval : Eval) (n : Nat) (d : Declaration Handler) : Prop :=
  ∀ x ∈ d.signatures, x.2.2.Orderly svc eval n (eagerSlots x.1)

namespace Subtags

variable {svc : Services} {eval : Eval} {n : Nat}

theorem dataDeclarations_orderly : ∀ d ∈ dataDeclarations, d.Orderly svc eval n := by
  simp only [dataDeclarations, getDeclaration, setDeclaration, shuffleDeclaration,
    lengthDeclaration, indexDeclaration, joinDeclaration, Declaration.Orderly,
    List.forall_mem_cons, List.not_mem_nil, false_imp_iff, implies_true, and_true]
  exact ⟨orderly_get rfl, orderly_set rfl rfl, ⟨orderly_nothing, orderly_shuffle rfl⟩,
    orderly_length rfl, orderly_index rfl rfl, orderly_join rfl rfl⟩

theorem presentationDeclarations_orderly :
    ∀ d ∈ presentationDeclarations, d.Orderly svc eval n := by
  simp only [presentationDeclarations, quietDeclaration, fallbackDeclaration, lbDeclaration,
    rbDeclaration, semiDeclaration, escapebbtagDeclaration, constantDeclaration,
    Declaration.Orderly, List.forall_mem_cons, List.not_mem_nil, false_imp_iff, implies_true,
    and_true]
  exact ⟨orderly_setQuiet rfl, ⟨orderly_clearFallback, orderly_setFallback rfl⟩,
    orderly_constant _, orderly_constant _, orderly_constant _, orderly_escape⟩

theorem computationDeclarations_orderly : ∀ d ∈ computationDeclarations, d.Orderly svc eval n := by
  simp only [computationDeclarations, mathDeclaration, regextestDeclaration,
    regexreplaceDeclaration, lowerDeclaration, Declaration.Orderly, List.forall_mem_cons,
    List.not_mem_nil, false_imp_iff, implies_true, and_true]
  exact ⟨orderly_math rfl rfl, orderly_regexTest rfl rfl, orderly_regexReplace rfl rfl rfl,
    orderly_lower rfl⟩

theorem lookupDeclarations_orderly : ∀ d ∈ lookupDeclarations, d.Orderly svc eval n := by
  simp only [lookupDeclarations, useridDeclaration, usernameDeclaration, channelidDeclaration,
    usercountDeclaration, lookupDeclaration, Declaration.Orderly, List.forall_mem_cons,
    List.not_mem_nil, false_imp_iff, implies_true, and_true]
  exact ⟨orderly_lookupId rfl rfl _, orderly_lookupName rfl rfl _, orderly_lookupId rfl rfl _,
    orderly_countUsers⟩

variable (heval : Follows svc n eval)

include heval

theorem choiceDeclarations_orderly : ∀ d ∈ choiceDeclarations, d.Orderly svc eval n := by
  simp only [choiceDeclarations, ifDeclaration, chooseDeclaration, randchooseDeclaration,
    Declaration.Orderly, List.forall_mem_cons, List.not_mem_nil, false_imp_iff, implies_true,
    and_true]
  exact ⟨⟨orderly_ifTrue heval rfl, orderly_ifCompare heval rfl rfl rfl⟩,
    orderly_choose heval rfl, orderly_chooseAtRandom heval⟩

theorem flowDeclarations_orderly : ∀ d ∈ flowDeclarations, d.Orderly svc eval n := by
  simp only [flowDeclarations, voidDeclaration, returnDeclaration, tryDeclaration,
    throwDeclaration, Declaration.Orderly, List.forall_mem_cons, List.not_mem_nil, false_imp_iff,
    implies_true, and_true]
  exact ⟨orderly_discard heval, orderly_leave rfl, orderly_tryCatch heval, orderly_raise rfl⟩

theorem iterationDeclarations_orderly : ∀ d ∈ iterationDeclarations, d.Orderly svc eval n := by
  simp only [iterationDeclarations, repeatDeclaration, foreachDeclaration, Declaration.Orderly,
    List.forall_mem_cons, List.not_mem_nil, false_imp_iff, implies_true, and_true]
  exact ⟨orderly_repeatCode heval rfl, orderly_forEach heval rfl rfl⟩

theorem procedureDeclarations_orderly : ∀ d ∈ procedureDeclarations, d.Orderly svc eval n := by
  simp only [procedureDeclarations, functionDeclaration, callDeclaration, paramsDeclaration,
    Declaration.Orderly, List.forall_mem_cons, List.not_mem_nil, false_imp_iff, implies_true,
    and_true]
  exact ⟨orderly_defineFunction rfl, orderly_callFunction heval rfl, orderly_allParams,
    orderly_param rfl⟩

theorem standardDeclarations_orderly :
    ∀ d ∈ standardDeclarations, d.Orderly svc eval n := by
  simp only [standardDeclarations, List.forall_mem_append]
  exact ⟨⟨⟨⟨⟨⟨⟨dataDeclarations_orderly, choiceDeclarations_orderly heval⟩,
    flowDeclarations_orderly heval⟩, iterationDeclarations_orderly heval⟩,
    procedureDeclarations_orderly heval⟩, presentationDeclarations_orderly⟩,
    computationDeclarations_orderly⟩, lookupDeclarations_orderly⟩

end Subtags

end BraceScript
