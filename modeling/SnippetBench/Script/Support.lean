import SnippetBench.Text.Basic

/-!
# The supporting part of a script

The text that every generated script carries in front of its snippets: the statistics, the duration
units, the report lines and the table header, written in the language of the script. It is data
here; what it computes and prints is the subject of the modules under `Report`.
-/

namespace SnippetBench.Script

/-- The lines of the supporting part. -/
def supportLines : List String :=
  [
    "# Author : Eshan Roy <eshanized@proton.me>",
    "# SPDX-License-Identifier: MIT",
    "",
    "# Runtime helpers for pybm generated scripts.",
    "#",
    "# This module is copied verbatim into every generated script, so it must",
    "# stay self-contained: standard library imports only, no package imports.",
    "# Names carry a _pybm_ prefix to stay out of the way of benchmarked code.",
    "",
    "import math as _pybm_math",
    "import sys as _pybm_sys",
    "from time import perf_counter as _pybm_clock",
    "",
    "_PYBM_ANSI = \x7b",
    "    \"red\": \"\\x1b[38;5;204;1m\",",
    "    \"blue\": \"\\x1b[38;5;39;1m\",",
    "\x7d",
    "_PYBM_BOLD = \"\\x1b[1m\"",
    "_PYBM_RESET = \"\\x1b[0m\"",
    "",
    "# The generator sets this to True after the helpers for markdown reports.",
    "_PYBM_MARKDOWN = False",
    "_PYBM_TABLE_HEAD = \"| id | result |\\n|----|--------|\"",
    "_pybm_table_open = False",
    "",
    "",
    "def _pybm_round(value):",
    "    # Half-up rounding; the built-in round() rounds half to even.",
    "    return int(_pybm_math.floor(value + 0.5))",
    "",
    "",
    "def _pybm_reduce(samples):",
    "    \"\"\"Trimmed mean/std of millisecond samples, as whole microseconds.\"\"\"",
    "    if not samples:",
    "        raise ValueError(\"cannot reduce an empty sample list\")",
    "",
    "    ordered = sorted(samples)",
    "    count = len(ordered)",
    "",
    "    fq = count / 4",
    "    top = min(_pybm_math.ceil(fq * 3), count - 1)",
    "    bot = _pybm_math.floor(fq)",
    "    margin = (ordered[top] - ordered[bot]) * 1.5",
    "    low = ordered[bot] - margin",
    "    high = ordered[top] + margin",
    "",
    "    kept = [v for v in ordered if low <= v <= high]",
    "",
    "    mean = sum(kept) / len(kept)",
    "    variance = sum((v - mean) ** 2 for v in kept) / len(kept)",
    "",
    "    return \x7b",
    "        \"mean\": _pybm_round(mean * 1000),",
    "        \"std\": _pybm_round(_pybm_math.sqrt(variance) * 1000),",
    "        \"outliers\": _pybm_round(100 - (len(kept) * 100 / count)),",
    "    \x7d",
    "",
    "",
    "def _pybm_ansi(text, color=None):",
    "    return _PYBM_ANSI.get(color, _PYBM_BOLD) + str(text) + _PYBM_RESET",
    "",
    "",
    "def _pybm_unit(micros):",
    "    if micros < 1_000:",
    "        return f\"\x7bmicros:.0f\x7dμs\"",
    "    if micros < 1_000_000:",
    "        return f\"\x7bmicros / 1_000:.2f\x7dms\"",
    "    return f\"\x7bmicros / 1_000_000:.2f\x7ds\"",
    "",
    "",
    "def _pybm_cell(text):",
    "    return str(text).replace(\"|\", \"\\\\|\").replace(\"\\n\", \" \")",
    "",
    "",
    "def _pybm_format(name, result, markdown=False):",
    "    if isinstance(result, dict) and \"std\" in result:",
    "        spread = f\"(std. \x7b_pybm_unit(result['std'])\x7d o. \x7bresult['outliers']\x7d%)\"",
    "        if markdown:",
    "            return f\"| \x7b_pybm_cell(name)\x7d | \x7b_pybm_unit(result['mean'])\x7d \x7bspread\x7d |\"",
    "        return (",
    "            _pybm_ansi(name, \"blue\")",
    "            + \" | \"",
    "            + _pybm_ansi(_pybm_unit(result[\"mean\"]))",
    "            + \" \"",
    "            + spread",
    "        )",
    "    error = f\"\x7btype(result).__name__\x7d: \x7bresult\x7d\"",
    "    if markdown:",
    "        return f\"| \x7b_pybm_cell(name)\x7d | \x7b_pybm_cell(error)\x7d |\"",
    "    return _pybm_ansi(name, \"red\") + \" |\\n\" + error",
    "",
    "",
    "def _pybm_log(name, result):",
    "    global _pybm_table_open",
    "    if _PYBM_MARKDOWN and not _pybm_table_open:",
    "        print(_PYBM_TABLE_HEAD, file=_pybm_sys.stdout)",
    "        _pybm_table_open = True",
    "    print(_pybm_format(name, result, _PYBM_MARKDOWN), file=_pybm_sys.stdout, flush=True)"
  ]

/-- The supporting part of every script. -/
def support : Text := supportLines.flatMap fun line => line.toList ++ ['\n']

end SnippetBench.Script
