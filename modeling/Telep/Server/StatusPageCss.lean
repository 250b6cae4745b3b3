import Telep.Misc.Text

/-!
# The stylesheet of the status page (`status_page_css.h`)

Every brace is written `\x7b` or `\x7d`.
-/

namespace Telep

/-- `STATUS_PAGE_CSS` -/
def statusPageCss : Bytes :=
  ascii ":root\x7bcolor-scheme:light dark;--bg:#f6f5f1;--surface:#fff;--line:#e7e4dc;--text:#1c1b19;--muted:#6b675f;--accent:#0f5c56;--ok-bg:#e4f1e8;--ok-fg:#1d6a39;--bad-bg:#fbe8e5;--bad-fg:#a12d24;--warn-bg:#fbf0d6;--warn-fg:#855600\x7d\n" ++
  ascii "@media (prefers-color-scheme:dark)\x7b:root\x7b--bg:#141412;--surface:#1c1b19;--line:#2d2b27;--text:#ece9e2;--muted:#9c978c;--accent:#5fbfb3;--ok-bg:#1a2c20;--ok-fg:#7fd39a;--bad-bg:#35201d;--bad-fg:#f1a59c;--warn-bg:#332915;--warn-fg:#e6b95a\x7d\x7d\n" ++
  ascii "*\x7bbox-sizing:border-box\x7d\n" ++
  ascii "body\x7bmargin:0;background:var(--bg);color:var(--text);font:15px/1.55 system-ui,-apple-system,'Segoe UI',Roboto,'Helvetica Neue',sans-serif;-webkit-font-smoothing:antialiased\x7d\n" ++
  ascii ".wrap\x7bmax-width:1080px;margin:0 auto;padding:44px 24px 72px\x7d\n" ++
  ascii ".top\x7bdisplay:flex;justify-content:space-between;align-items:flex-end;gap:16px;flex-wrap:wrap;margin-bottom:28px\x7d\n" ++
  ascii "h1\x7bmargin:0;font-size:28px;line-height:1.15;font-weight:650;letter-spacing:-.02em\x7d\n" ++
  ascii "h1::before\x7bcontent:'';display:inline-block;width:10px;height:10px;margin-right:12px;border-radius:2px;background:var(--accent);vertical-align:middle;position:relative;top:-2px\x7d\n" ++
  ascii ".sub\x7bmargin:8px 0 0;color:var(--muted);font-size:14px\x7d\n" ++
  ascii ".health\x7bdisplay:flex;gap:8px;flex-wrap:wrap\x7d\n" ++
  ascii ".badge\x7bdisplay:inline-flex;align-items:center;gap:7px;padding:3px 10px;border-radius:999px;font-size:11.5px;font-weight:600;letter-spacing:.04em;text-transform:uppercase;white-space:nowrap;background:var(--ok-bg);color:var(--ok-fg)\x7d\n" ++
  ascii ".badge::before\x7bcontent:'';width:6px;height:6px;border-radius:50%;background:currentColor\x7d\n" ++
  ascii ".badge.bad\x7bbackground:var(--bad-bg);color:var(--bad-fg)\x7d\n" ++
  ascii ".badge.warn\x7bbackground:var(--warn-bg);color:var(--warn-fg)\x7d\n" ++
  ascii ".badge.plain::before\x7bdisplay:none\x7d\n" ++
  ascii ".kpis\x7bdisplay:grid;grid-template-columns:repeat(auto-fit,minmax(150px,1fr));gap:12px\x7d\n" ++
  ascii ".kpi\x7bpadding:16px 18px;background:var(--surface);border:1px solid var(--line);border-radius:10px\x7d\n" ++
  ascii ".kpi span\x7bdisplay:block;color:var(--muted);font-size:12.5px\x7d\n" ++
  ascii ".kpi strong\x7bdisplay:block;margin-top:4px;font-size:28px;line-height:1.1;font-weight:600;letter-spacing:-.02em;font-variant-numeric:tabular-nums\x7d\n" ++
  ascii ".kpi.hot strong\x7bcolor:var(--bad-fg)\x7d\n" ++
  ascii "section\x7bmargin-top:40px\x7d\n" ++
  ascii "h2\x7bdisplay:flex;align-items:baseline;gap:10px;margin:0 0 12px;font-size:16px;font-weight:600;letter-spacing:-.01em\x7d\n" ++
  ascii "h2 small\x7bcolor:var(--muted);font-size:13px;font-weight:500\x7d\n" ++
  ascii ".card\x7bbackground:var(--surface);border:1px solid var(--line);border-radius:10px;overflow:hidden\x7d\n" ++
  ascii ".scroll\x7boverflow-x:auto\x7d\n" ++
  ascii "table\x7bwidth:100%;border-collapse:collapse;font-size:14px\x7d\n" ++
  ascii "th\x7bpadding:10px 16px;text-align:left;color:var(--muted);font-size:12px;font-weight:500;white-space:nowrap;border-bottom:1px solid var(--line)\x7d\n" ++
  ascii "td\x7bpadding:12px 16px;vertical-align:middle;border-bottom:1px solid var(--line)\x7d\n" ++
  ascii "tr:last-child td\x7bborder-bottom:0\x7d\n" ++
  ascii "tbody tr:hover\x7bbackground:rgba(127,127,127,.06)\x7d\n" ++
  ascii ".mono,.id,.num,.chip,.kv dt,.kv dd,.links a\x7bfont-family:ui-monospace,'SF Mono',Menlo,Consolas,monospace\x7d\n" ++
  ascii ".id\x7bfont-weight:600\x7d\n" ++
  ascii ".num\x7bfont-variant-numeric:tabular-nums;white-space:nowrap\x7d\n" ++
  ascii ".muted\x7bcolor:var(--muted)\x7d\n" ++
  ascii ".chips\x7bdisplay:flex;flex-wrap:wrap;gap:6px\x7d\n" ++
  ascii ".chip\x7bpadding:3px 8px;background:var(--bg);border:1px solid var(--line);border-radius:6px;font-size:12.5px;white-space:nowrap;font-variant-numeric:tabular-nums\x7d\n" ++
  ascii ".chip b\x7bmargin-right:6px;color:var(--muted);font-weight:500\x7d\n" ++
  ascii ".chip.hot\x7bbackground:var(--bad-bg);border-color:transparent;color:var(--bad-fg)\x7d\n" ++
  ascii ".chip.hot b\x7bcolor:inherit;opacity:.75\x7d\n" ++
  ascii ".empty\x7bpadding:32px 16px;text-align:center;color:var(--muted)\x7d\n" ++
  ascii "details.card summary\x7bpadding:13px 16px;font-weight:500;cursor:pointer;list-style:none\x7d\n" ++
  ascii "details.card summary::-webkit-details-marker\x7bdisplay:none\x7d\n" ++
  ascii "details.card summary::after\x7bcontent:'+';float:right;color:var(--muted)\x7d\n" ++
  ascii "details.card[open] summary::after\x7bcontent:'\\2212'\x7d\n" ++
  ascii ".kv\x7bdisplay:grid;grid-template-columns:repeat(auto-fill,minmax(160px,1fr));gap:14px 20px;margin:0;padding:16px;border-top:1px solid var(--line)\x7d\n" ++
  ascii ".kv dt\x7bcolor:var(--muted);font-size:12px\x7d\n" ++
  ascii ".kv dd\x7bmargin:2px 0 0;font-size:13.5px;font-variant-numeric:tabular-nums;word-break:break-all\x7d\n" ++
  ascii ".links\x7bdisplay:flex;flex-wrap:wrap;align-items:center;gap:10px;margin-top:40px;color:var(--muted);font-size:13px\x7d\n" ++
  ascii ".links a\x7bpadding:4px 10px;background:var(--surface);border:1px solid var(--line);border-radius:6px;color:var(--text);font-size:12.5px;text-decoration:none\x7d\n" ++
  ascii ".links a:hover\x7bborder-color:var(--accent);color:var(--accent)\x7d\n" ++
  ascii "a:focus-visible,summary:focus-visible\x7boutline:2px solid var(--accent);outline-offset:2px\x7d\n" ++
  ascii "@media (max-width:640px)\x7b.wrap\x7bpadding:26px 14px 56px\x7dh1\x7bfont-size:23px\x7dth,td\x7bpadding:10px 12px\x7d.kpi strong\x7bfont-size:24px\x7dh2\x7bflex-wrap:wrap;gap:2px 10px\x7d.kv\x7bgrid-template-columns:repeat(2,1fr)\x7d.stack thead\x7bdisplay:none\x7d.stack tr\x7bdisplay:grid;grid-template-columns:1fr auto;align-items:center;gap:8px 12px;padding:14px;border-bottom:1px solid var(--line)\x7d.stack tr:last-child\x7bborder-bottom:0\x7d.stack td\x7bpadding:0;border:0\x7d.stack td:nth-child(2)\x7bjustify-self:end\x7d.stack td:nth-child(3)\x7bgrid-column:1/-1;color:var(--muted);font-size:12.5px\x7d.stack td:nth-child(4)\x7bgrid-column:1/-1\x7d\x7d\n"

end Telep
