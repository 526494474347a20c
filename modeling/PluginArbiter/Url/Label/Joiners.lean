/-
# Joiners

Two characters without room of their own say whether the letters on both sides are joined.  A label
may show them only where they make a difference.
-/
import PluginArbiter.Text.Marks

namespace PluginArbiter.Url.Label

/-! ## 1. How letters join -/

/-- Letters that join on both sides. -/
def joinsBothTable : String :=
  "620 626-62a/2 62b-62e 633-63f 641-647 649-64a 66e-66f 679-687 69a-6bf 6c1-6c2 6cc-6d0/2 6d1
   6fa-6fc 6ff 712-714 71a-71d 71f-727 729-72d/2 72e 74e-758 75c-76a 76d-770 772 775-777 77a-77f
   7ca-7ea 841-845 848 84a-853 855 860 862-865 868 886 889-88d 8a0-8a9 8af-8b0 8b3-8b8 8ba-8c8
   1807 1820-1878 1887-18a8 18aa a840-a871 10ac0-10ac4 10ad3-10ad6 10ad8-10adc 10ade-10ae0
   10aeb-10aee 10b80 10b82 10b86-10b88 10b8a-10b8b 10b8d 10b90 10bad-10bae 10d01-10d21 10d23
   10f30-10f32 10f34-10f44 10f51-10f53 10f70-10f73 10f76-10f81 10fb0 10fb2-10fb3 10fb8
   10fbb-10fbc 10fbe-10fbf 10fc1 10fc4 10fca 1e922-1e943"

/-- Letters that join with the one before them only. -/
def joinsBeforeTable : String :=
  "622-625 627 629 62f-632 648 671-673 688-699 6c0 6c3-6cb 6cd 6cf 6d2-6d3 6d5 6ee-6ef 710
   715-719 71e 728-72c/2 72f 74d 759-75b 76b-76c 771 773-774 778-779 840 846-847 849 854 856-858
   867 869-86a 870-882 88e 8aa-8ac 8ae 8b1-8b2 8b9 10ac5-10ac9/2 10aca 10ace-10ad2 10add 10ae1
   10ae4 10aef 10b81 10b83-10b85 10b89 10b8c 10b8e-10b8f 10b91 10ba9-10bac 10d22 10f33 10f54
   10f74-10f75 10fb4-10fb6 10fb9-10fba 10fbd 10fc2-10fc3 10fc9"

/-- Letters that join with the one after them only. -/
def joinsAfterTable : String :=
  "a872 10acd 10ad7 10d00 10fcb"

def joinsBothRuns : List Text.CodeRun := Text.codeRuns joinsBothTable

def joinsBeforeRuns : List Text.CodeRun := Text.codeRuns joinsBeforeTable

def joinsAfterRuns : List Text.CodeRun := Text.codeRuns joinsAfterTable

/-- Characters that joining passes over. -/
def isPassedOver (c : Char) : Bool := Text.isNonspacing c || c.toNat == 0x1E94B

/-- A letter that joins with the one after it. -/
def joinsAfter (c : Char) : Bool :=
  Text.inRuns joinsBothRuns c || Text.inRuns joinsAfterRuns c

/-- A letter that joins with the one before it. -/
def joinsBefore (c : Char) : Bool :=
  Text.inRuns joinsBothRuns c || Text.inRuns joinsBeforeRuns c

/-- Whether the next character that counts has a property. -/
def nextIs (p : Char → Bool) (cs : List Char) : Bool :=
  match cs.dropWhile fun c => !p c && isPassedOver c with
  | [] => false
  | c :: _ => p c

/-! ## 2. Joiners -/

/-- The character that joins letters, and the one that keeps them apart. -/
def joiner : Char := '\u200d'

def nonJoiner : Char := '\u200c'

/-- The class of the marks that silence a vowel; behind them both characters may stand. -/
def silencerClass : Nat := 9

/-- Whether the joiners in the rest of a label fit, the part before it being in reverse. -/
def joinersFitAfter (before : List Char) : List Char → Bool
  | [] => true
  | c :: rest =>
    let silenced := before.head?.any fun b => Text.markClass b == silencerClass
    let fits :=
      if c == joiner then silenced
      else if c == nonJoiner then
        silenced || (nextIs joinsAfter before && nextIs joinsBefore rest)
      else true
    fits && joinersFitAfter (c :: before) rest

/-- Whether the joiners in a label fit. -/
def joinersFit (label : List Char) : Bool := joinersFitAfter [] label

end PluginArbiter.Url.Label
