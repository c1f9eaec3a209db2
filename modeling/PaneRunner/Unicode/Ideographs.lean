import PaneRunner.Unicode.Table

/-
  Ideographs, their parts, and the characters that describe them.
-/
namespace PaneRunner.Unicode

/-- Ideographs. -/
def ideographic : CharSet := table
  ["3006-3007 3021-3029 3038-303a 3400-4dbf 4e00-9fff f900-fa6d fa70-fad9 16fe4",
    "17000-187f7 18800-18cd5 18cff-18d08 1b170-1b2fb 20000-2a6df 2a700-2b739 2b740-2b81d",
    "2b820-2cea1 2ceb0-2ebe0 2ebf0-2ee5d 2f800-2fa1d 30000-3134a 31350-323af"]

/-- Unified ideographs. -/
def unifiedIdeograph : CharSet := table
  ["3400-4dbf 4e00-9fff fa0e-fa0f fa11 fa13-fa14 fa1f fa21 fa23-fa24 fa27-fa29",
    "20000-2a6df 2a700-2b739 2b740-2b81d 2b820-2cea1 2ceb0-2ebe0 2ebf0-2ee5d 30000-3134a",
    "31350-323af"]

/-- Parts of ideographs. -/
def radical : CharSet := table
  ["2e80-2e99 2e9b-2ef3 2f00-2fd5"]

/-- Characters that describe an ideograph by two parts. -/
def idsBinaryOperator : CharSet := table
  ["2ff0-2ff1 2ff4-2ffd 31ef"]

/-- Characters that describe an ideograph by three parts. -/
def idsTrinaryOperator : CharSet := table
  ["2ff2-2ff3"]

/-- Characters that describe an ideograph by a change to another. -/
def idsUnaryOperator : CharSet := table
  ["2ffe-2fff"]

end PaneRunner.Unicode
