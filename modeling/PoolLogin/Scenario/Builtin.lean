import PoolLogin.Scenario.Basic

/-!
The built-in scenarios. They hold the odd cases on purpose: a final `@` gives an empty domain and
not an absent one, an `@` after the first dot makes a secondary id of what stands before it, and
further `@` stay inside the domain.
-/

namespace PoolLogin.Scenario

def ofLiterals (name primary : String) (secondary domain suffix : Option String := none) :
    Scenario :=
  ofTexts name.toList
    { primary := primary.toList
      secondary := secondary.map String.toList
      domain := domain.map String.toList
      suffix := suffix.map String.toList }

/-- The cases that worker names have always been checked against. -/
def builtin : List Scenario :=
  [ofLiterals "user1" "user1",
    ofLiterals "user1.worker1" "user1" none none (some "worker1"),
    ofLiterals "btcaddress.lightning@domain.worker1" "btcaddress" (some "lightning")
      (some "domain") (some "worker1"),
    ofLiterals "btcaddress.lightning@domain" "btcaddress" (some "lightning") (some "domain"),
    ofLiterals "btcaddress.lightning@" "btcaddress" (some "lightning") (some ""),
    ofLiterals "user1.worker1.rig2" "user1" none none (some "worker1.rig2"),
    ofLiterals "user1.worker@rig2" "user1" (some "worker") (some "rig2"),
    ofLiterals "1abc123def.lnid@example.com.worker1" "1abc123def" (some "lnid")
      (some "example") (some "com.worker1"),
    ofLiterals "btc.lightning@domain@extra.worker" "btc" (some "lightning")
      (some "domain@extra") (some "worker"),
    ofLiterals "bc1address.lightning@domain.worker.rig1.gpu2" "bc1address" (some "lightning")
      (some "domain") (some "worker.rig1.gpu2")]

end PoolLogin.Scenario
