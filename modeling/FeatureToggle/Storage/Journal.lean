import FeatureToggle.Storage.Basic

/-!
# Journals

A journal logs every write before passing it on. Its message is a template in which `{1}` stands for
the feature and `{2}` for what it is set to; the second is filled in after the first.
-/
namespace FeatureToggle

structure Journal where
  template : String
  level : LogLevel
  deriving DecidableEq

namespace Journal

def standard : Journal := ⟨"Setting feature \"\x7b1\x7d\" to \"\x7b2\x7d\"", .info⟩

def word (enabled : Bool) : String := if enabled then "enabled" else "disabled"

def render (j : Journal) (state : FeatureState) : String :=
  Text.replace (Text.replace j.template "\x7b1\x7d" state.feature) "\x7b2\x7d" (word state.enabled)

end Journal

/-- A repository whose writes are logged in a journal. -/
def Repository.journaled {σ : Type} (journal : Journal) (inner : Repository σ) : Repository σ where
  read := inner.read
  write state := do
    Action.log (.custom journal.level (journal.render state))
    inner.write state

namespace Repository

variable {σ : Type} (journal : Journal) (inner : Repository σ)

@[simp] theorem read_journaled (feature : String) :
    (journaled journal inner).read feature = inner.read feature := rfl

@[simp] theorem result_journaled_write (state : FeatureState) (w : σ) :
    ((journaled journal inner).write state).result w = (inner.write state).result w := rfl

@[simp] theorem after_journaled_write (state : FeatureState) (w : σ) :
    ((journaled journal inner).write state).after w = (inner.write state).after w := rfl

@[simp] theorem events_journaled_write (state : FeatureState) (w : σ) :
    ((journaled journal inner).write state).events w =
      .logged (.custom journal.level (journal.render state)) :: (inner.write state).events w := rfl

end Repository

end FeatureToggle
