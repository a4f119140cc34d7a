import Telemetry.Text.Ranges

/-!
# Canonical composition

A text in canonical composition writes a letter and its marks as one character where Unicode
(version 17) has one, with the marks in a fixed order: marks of different classes may change places,
marks of one class may not. A text is decomposed, its marks are put in order, and what can be
composed is composed.
-/

namespace Telemetry.Text

/-- The code points of each class; all others are of class zero and keep their place. -/
def markClassTexts : List (Nat × String) := [
  (1, "ms-4 523 d-6 rt-1 4-2 a-1 3-1 1a31 j3q-4 g4p 43s-2"),
  (6, "20og-1"),
  (7, "1to 3j 3j 3j 3j 73 3j oq 264 4x 28 ry3 kcm 54 2e 2z 4y 29-1 7d 3g 70 6u aq 7c se 14av"),
  (8, "9ll-1"),
  (9,
    "1u5 3j 3j 3j 3j 3j 3j 3j 31-1 g 3g 33 3j 5l 50-1 1cp-1 u 4d i5 6b 2t-1 1y-1 3gr o7a 11 47
     3y 30 8l 6u imp 16u 15 e 1l 3d-1 3v 38 50 2q 3k-2 35 3j 70 3j 3a 38 7h 77-1 4h 2b i 29 bp
     78-1 29 bt-1 d0s"),
  (10, "14g"),
  (11, "14h"),
  (12, "14i"),
  (13, "14j"),
  (14, "14k"),
  (15, "14l"),
  (16, "14m"),
  (17, "14n"),
  (18, "14o e"),
  (19, "14p-1"),
  (20, "14r"),
  (21, "14s"),
  (22, "14t"),
  (23, "14v"),
  (24, "14x"),
  (25, "14y"),
  (26, "1dlq"),
  (27, "18r is"),
  (28, "18s is"),
  (29, "18t is"),
  (30, "17c 1h"),
  (31, "17d 1h"),
  (32, "17e 1h"),
  (33, "18x"),
  (34, "18y"),
  (35, "19s"),
  (36, "1e9"),
  (84, "2fp"),
  (91, "2fq"),
  (103, "2t4-1"),
  (107, "2tk-3"),
  (118, "2wo-1"),
  (122, "2x4-3"),
  (129, "31t"),
  (130, "31u 7-3 2"),
  (132, "31w"),
  (202, "m9-1 4-1 59j"),
  (214, "5vy"),
  (216, "m3 2e5 2gx7-1 7-4"),
  (218, "5x6 3lb"),
  (220,
    "ly-3 2-4 2-3 2-a 5-3 a-2 3-1 4-3 2-1 fq 4 4 6-5 2 q 3z-1 5 2 3n 6 2 1v 2 2-2 1-1 1 3 1 1 1
     4p a 2j-2 1p-2 1f-4 f 2 2 3-2 6 2-1 2f 151-1 r 1 3y 5i 1pp 64 2u 1h-5 2 1-1 2-1 5 i 8 3p
     a0-4 2-3 d 5w 7 4 15 3 1 ko 3-3 qwr-2 au ghe-6 r3 6a 1f0 18 4r sz-1 1-2 1y-1 3 1-3 1e 1
     12b9-7 7-1 3tu 74 kg-6"),
  (222, "13u i 3uz 4j7"),
  (224, "9im-1"),
  (226, "2jxp"),
  (228, "14e 3qy 11p-1 3le"),
  (230,
    "lc-k 14-7 1 3-2 3-2 4 3 7-c 7n-4 7e-3 1-2 2-5 6-1 1-1 2 k 23-7 1n-1 2-4 1-1 3b-6 2-3 1 2-1
     2-1 1v 1-1 1-1 3 2 1-2 1 1 1 1-1 4g-6 1 y-3 1-8 1-2 1-4 2x-1 3-3 16-4 5-d 2-1 1-1 1-2 6-2
     1-1 2-4 29 1-1 4p 137-1 2-1 r9-2 vx 9o 64 2l-7 1f-4 6-1 4-1 2-4 1-h 3-5 1-3 3k 1-6 9o-2 7-1
     4 j 3-1 5i-1 1-6 1-1 4-10 5 2 k1-1 2-3 3-1 4 5 1 6 2da-2 6m-v nsf 4-9 w-1 28-1 dq-h ce 1-1
     3-1 5-1 1 ggu-6 7-1 11i-4 1as 14 4s fy-3 1t-4 8t-1 4b-2 1 1h 1 aj-2 gz-6 3-4 6h h5d-6 k7i-4
     w-3 44-2 2pn-6 1-g 2-6 1-1 1-4 2s 4g-6 af 1p-3 e7 72 6s 2 7-1 5 ge-5"),
  (232, "lx 4 1p 599 3lh 2e9r-1"),
  (233, "nw 2 2 595"),
  (234, "nx-1 1-1 4nd kh"),
  (240, "n9")]

def markClasses : List (Nat × Ranges) :=
  markClassTexts.map fun (markClass, text) => (markClass, Ranges.ofText text)

def markClass (code : Nat) : Nat :=
  if code < 0x300 then 0
  else ((markClasses.find? fun (_, set) => set.holds code).map (·.1)).getD 0

/-- A word for each character that is composed of two, in ascending order: how many code points lie
between it and the one before, and the two that it is composed of, in base thirty-six. -/
def pairText : String :=
  "5c-1t-lc 0-1t-ld 0-1t-le 0-1t-lf 0-1t-lk 0-1t-lm 1-1v-mf 0-1x-lc 0-1x-ld 0-1x-le 0-1x-lk
   0-21-lc 0-21-ld 0-21-le 0-21-lk 1-26-lf 0-27-lc 0-27-ld 0-27-le 0-27-lf 0-27-lk 2-2d-lc
   0-2d-ld 0-2d-le 0-2d-lk 0-2h-ld 2-2p-lc 0-2p-ld 0-2p-le 0-2p-lf 0-2p-lk 0-2p-lm 1-2r-mf
   0-2t-lc 0-2t-ld 0-2t-le 0-2t-lk 0-2x-lc 0-2x-ld 0-2x-le 0-2x-lk 1-32-lf 0-33-lc 0-33-ld
   0-33-le 0-33-lf 0-33-lk 2-39-lc 0-39-ld 0-39-le 0-39-lk 0-3d-ld 1-3d-lk 0-1t-lg 0-2p-lg
   0-1t-li 0-2p-li 0-1t-mg 0-2p-mg 0-1v-ld 0-2r-ld 0-1v-le 0-2r-le 0-1v-lj 0-2r-lj 0-1v-lo
   0-2r-lo 0-1w-lo 0-2s-lo 2-1x-lg 0-2t-lg 0-1x-li 0-2t-li 0-1x-lj 0-2t-lj 0-1x-mg 0-2t-mg
   0-1x-lo 0-2t-lo 0-1z-le 0-2v-le 0-1z-li 0-2v-li 0-1z-lj 0-2v-lj 0-1z-mf 0-2v-mf 0-20-le
   0-2w-le 2-21-lf 0-2x-lf 0-21-lg 0-2x-lg 0-21-li 0-2x-li 0-21-mg 0-2x-mg 0-21-lj 3-22-le
   0-2y-le 0-23-mf 0-2z-mf 1-24-ld 0-30-ld 0-24-mf 0-30-mf 0-24-lo 0-30-lo 4-26-ld 0-32-ld
   0-26-mf 0-32-mf 0-26-lo 0-32-lo 3-27-lg 0-33-lg 0-27-li 0-33-li 0-27-ln 0-33-ln 2-2a-ld
   0-36-ld 0-2a-mf 0-36-mf 0-2a-lo 0-36-lo 0-2b-ld 0-37-ld 0-2b-le 0-37-le 0-2b-mf 0-37-mf
   0-2b-lo 0-37-lo 0-2c-mf 0-38-mf 0-2c-lo 0-38-lo 2-2d-lf 0-39-lf 0-2d-lg 0-39-lg 0-2d-li
   0-39-li 0-2d-lm 0-39-lm 0-2d-ln 0-39-ln 0-2d-mg 0-39-mg 0-2f-le 0-3b-le 0-2h-le 0-3d-le
   0-2h-lk 0-2i-ld 0-3e-ld 0-2i-lj 0-3e-lj 0-2i-lo 0-3e-lo x-27-m3 0-33-m3 d-2d-m3 0-39-m3
   s-1t-lo 0-2p-lo 0-21-lo 0-2x-lo 0-27-lo 0-33-lo 0-2d-lo 0-39-lo 0-64-lg 0-70-lg 0-64-ld
   0-70-ld 0-64-lo 0-70-lo 0-64-lc 0-70-lc 1-5g-lg 0-6c-lg 0-fa-lg 0-fb-lg 0-5i-lg 0-6e-lg
   2-1z-lo 0-2v-lo 0-23-lo 0-2z-lo 0-27-mg 0-33-mg 0-dm-lg 0-dn-lg 0-c7-lo 0-ia-lo 0-2y-lo
   3-1z-ld 0-2v-ld 2-26-lc 0-32-lc 0-5h-ld 0-6d-ld 0-5i-ld 0-6e-ld 0-60-ld 0-6w-ld 0-1t-lr
   0-2p-lr 0-1t-lt 0-2p-lt 0-1x-lr 0-2t-lr 0-1x-lt 0-2t-lt 0-21-lr 0-2x-lr 0-21-lt 0-2x-lt
   0-27-lr 0-33-lr 0-27-lt 0-33-lt 0-2a-lr 0-36-lr 0-2a-lt 0-36-lt 0-2d-lr 0-39-lr 0-2d-lt
   0-39-lt 0-2b-me 0-37-me 0-2c-me 0-38-me 2-20-lo 0-2w-lo 6-1t-lj 0-2p-lj 0-1x-mf 0-2t-mf
   0-5y-lg 0-6u-lg 0-5x-lg 0-6t-lg 0-27-lj 0-33-lj 0-fi-lg 0-fj-lg 0-2h-lg 0-3d-lg 9d-4o-ld
   0-pd-ld 1-ph-ld 0-pj-ld 0-pl-ld 1-pr-ld 1-px-ld 0-q1-ld 0-qy-ld p-pl-lk 0-px-lk 0-q9-ld
   0-qd-ld 0-qf-ld 0-qh-ld 0-qz-ld p-qh-lk 0-qt-lk 0-qn-ld 0-qt-ld 0-qx-ld 4-r6-ld 0-r6-lk
   17-t1-lc 0-t1-lk 1-sz-ld 3-sm-lk 4-t6-ld 0-t4-lc 0-tf-li a-t4-li v-u0-li m-tx-lc 0-tx-lk
   1-tv-ld 3-uu-lk 4-u2-ld 0-u0-lc 0-ub-li n-vo-lr 0-vp-lr 21-t2-li 0-ty-li d-sw-li 0-ts-li
   0-sw-lk 0-ts-lk 2-t1-li 0-tx-li 2-yg-lk 0-yh-lk 0-t2-lk 0-ty-lk 0-t3-lk 0-tz-lk 2-t4-lg
   0-u0-lg 0-t4-lk 0-u0-lk 0-ta-lk 0-u6-lk 2-yw-lk 0-yx-lk 0-tp-lk 0-ul-lk 0-tf-lg 0-ub-lg
   0-tf-lk 0-ub-lk 0-tf-ln 0-ub-ln 0-tj-lk 0-uf-lk 2-tn-lk 0-uj-lk 88-17r-18z 0-17r-190
   0-18o-190 0-17r-191 0-18q-190 49-1cl-190 1-1c1-190 g-1ci-190 gl-1t4-1to 7-1tc-1to 2-1tf-1to
   46-1xj-1xa 0-1xj-1xz aj-287-28m 2-287-27y 0-287-28n 1z-2aa-2c7 1h-2bq-2bi 0-2br-2bi 0-2bq-2c7
   3f-2fa-2fq 3b-2in-2j9 6-2iu-2j9 0-2iu-2ja 1-2iu-2iq 0-2iy-2j9 3i-2me-2m6 0-2mf-2m6 0-2me-2mv
   3x-2qh-2q2 1-2qh-2q7 0-2qk-2q2 0-2qh-2qn g7-36t-372 25b-5c5-5dh 1-5c7-5dh 1-5c9-5dh 1-5cb-5dh
   1-5cd-5dh 3-5ch-5dh 14-5dm-5dh 1-5do-5dh 2-5dq-5dh 0-5dr-5dh 1-5du-5dh jg-1t-md 0-2p-md
   0-1u-lj 0-2q-lj 0-1u-mb 0-2q-mb 0-1u-mp 0-2q-mp 0-5j-ld 0-6f-ld 0-1w-lj 0-2s-lj 0-1w-mb
   0-2s-mb 0-1w-mp 0-2s-mp 0-1w-mf 0-2s-mf 0-1w-ml 0-2s-ml 0-7m-lc 0-7n-lc 0-7m-ld 0-7n-ld
   0-1x-ml 0-2t-ml 0-1x-mo 0-2t-mo 0-fc-li 0-fd-li 0-1y-lj 0-2u-lj 0-1z-lg 0-2v-lg 0-20-lj
   0-2w-lj 0-20-mb 0-2w-mb 0-20-lk 0-2w-lk 0-20-mf 0-2w-mf 0-20-mm 0-2w-mm 0-21-mo 0-2x-mo
   0-5r-ld 0-6n-ld 0-23-ld 0-2z-ld 0-23-mb 0-2z-mb 0-23-mp 0-2z-mp 0-24-mb 0-30-mb 0-5yu-lg
   0-5yv-lg 0-24-mp 0-30-mp 0-24-ml 0-30-ml 0-25-ld 0-31-ld 0-25-lj 0-31-lj 0-25-mb 0-31-mb
   0-26-lj 0-32-lj 0-26-mb 0-32-mb 0-26-mp 0-32-mp 0-26-ml 0-32-ml 0-5x-ld 0-6t-ld 0-5x-lk
   0-6t-lk 0-98-lc 0-99-lc 0-98-ld 0-99-ld 0-28-ld 0-34-ld 0-28-lj 0-34-lj 0-2a-lj 0-36-lj
   0-2a-mb 0-36-mb 0-5zu-lg 0-5zv-lg 0-2a-mp 0-36-mp 0-2b-lj 0-37-lj 0-2b-mb 0-37-mb 0-9m-lj
   0-9n-lj 0-9s-lj 0-9t-lj 0-602-lj 0-603-lj 0-2c-lj 0-38-lj 0-2c-mb 0-38-mb 0-2c-mp 0-38-mp
   0-2c-ml 0-38-ml 0-2d-mc 0-39-mc 0-2d-mo 0-39-mo 0-2d-ml 0-39-ml 0-a0-ld 0-a1-ld 0-a2-lk
   0-a3-lk 0-2e-lf 0-3a-lf 0-2e-mb 0-3a-mb 0-2f-lc 0-3b-lc 0-2f-ld 0-3b-ld 0-2f-lk 0-3b-lk
   0-2f-lj 0-3b-lj 0-2f-mb 0-3b-mb 0-2g-lj 0-3c-lj 0-2g-lk 0-3c-lk 0-2h-lj 0-3d-lj 0-2i-le
   0-3e-le 0-2i-mb 0-3e-mb 0-2i-mp 0-3e-mp 0-2w-mp 0-38-lk 0-3b-lm 0-3d-lm 1-an-lj 4-1t-mb
   0-2p-mb 0-1t-ll 0-2p-ll 0-5e-ld 0-6a-ld 0-5e-lc 0-6a-lc 0-5e-ll 0-6a-ll 0-5e-lf 0-6a-lf
   0-61s-le 0-61t-le 0-76-ld 0-77-ld 0-76-lc 0-77-lc 0-76-ll 0-77-ll 0-76-lf 0-77-lf 0-61s-li
   0-61t-li 0-1x-mb 0-2t-mb 0-1x-ll 0-2t-ll 0-1x-lf 0-2t-lf 0-5m-ld 0-6i-ld 0-5m-lc 0-6i-lc
   0-5m-ll 0-6i-ll 0-5m-lf 0-6i-lf 0-62g-le 0-62h-le 0-21-ll 0-2x-ll 0-21-mb 0-2x-mb 0-27-mb
   0-33-mb 0-27-ll 0-33-ll 0-5w-ld 0-6s-ld 0-5w-lc 0-6s-lc 0-5w-ll 0-6s-ll 0-5w-lf 0-6s-lf
   0-630-le 0-631-le 0-bk-ld 0-bl-ld 0-bk-lc 0-bl-lc 0-bk-ll 0-bl-ll 0-bk-lf 0-bl-lf 0-bk-mb
   0-bl-mb 0-2d-mb 0-39-mb 0-2d-ll 0-39-ll 0-bz-ld 0-c0-ld 0-bz-lc 0-c0-lc 0-bz-ll 0-c0-ll
   0-bz-lf 0-c0-lf 0-bz-mb 0-c0-mb 0-2h-lc 0-3d-lc 0-2h-mb 0-3d-mb 0-2h-ll 0-3d-ll 0-2h-lf
   0-3d-lf 6-q9-lv 0-q9-lw 0-64g-lc 0-64h-lc 0-64g-ld 0-64h-ld 0-64g-n6 0-64h-n6 0-pd-lv 0-pd-lw
   0-64o-lc 0-64p-lc 0-64o-ld 0-64p-ld 0-64o-n6 0-64p-n6 0-qd-lv 0-qd-lw 0-64w-lc 0-64x-lc
   0-64w-ld 0-64x-ld 2-ph-lv 0-ph-lw 0-654-lc 0-655-lc 0-654-ld 0-655-ld 2-qf-lv 0-qf-lw
   0-65c-lc 0-65d-lc 0-65c-ld 0-65d-ld 0-65c-n6 0-65d-n6 0-pj-lv 0-pj-lw 0-65k-lc 0-65l-lc
   0-65k-ld 0-65l-ld 0-65k-n6 0-65l-n6 0-qh-lv 0-qh-lw 0-65s-lc 0-65t-lc 0-65s-ld 0-65t-ld
   0-65s-n6 0-65t-n6 0-pl-lv 0-pl-lw 0-660-lc 0-661-lc 0-660-ld 0-661-ld 0-660-n6 0-661-n6
   0-qn-lv 0-qn-lw 0-668-lc 0-669-lc 0-668-ld 0-669-ld 2-pr-lv 0-pr-lw 0-66g-lc 0-66h-lc
   0-66g-ld 0-66h-ld 2-qt-lv 0-qt-lw 0-66o-lc 0-66p-lc 0-66o-ld 0-66p-ld 0-66o-n6 0-66p-n6
   1-px-lw 1-66x-lc 1-66x-ld 1-66x-n6 0-qx-lv 0-qx-lw 0-674-lc 0-675-lc 0-674-ld 0-675-ld
   0-674-n6 0-675-n6 0-q1-lv 0-q1-lw 0-67c-lc 0-67d-lc 0-67c-ld 0-67d-ld 0-67c-n6 0-67d-n6
   0-q9-lc 1-qd-lc 1-qf-lc 1-qh-lc 1-qn-lc 1-qt-lc 1-qx-lc 3-64g-n9 0-64h-n9 0-64i-n9 0-64j-n9
   0-64k-n9 0-64l-n9 0-64m-n9 0-64n-n9 0-64o-n9 0-64p-n9 0-64q-n9 0-64r-n9 0-64s-n9 0-64t-n9
   0-64u-n9 0-64v-n9 0-65c-n9 0-65d-n9 0-65e-n9 0-65f-n9 0-65g-n9 0-65h-n9 0-65i-n9 0-65j-n9
   0-65k-n9 0-65l-n9 0-65m-n9 0-65n-n9 0-65o-n9 0-65p-n9 0-65q-n9 0-65r-n9 0-674-n9 0-675-n9
   0-676-n9 0-677-n9 0-678-n9 0-679-n9 0-67a-n9 0-67b-n9 0-67c-n9 0-67d-n9 0-67e-n9 0-67f-n9
   0-67g-n9 0-67h-n9 0-67i-n9 0-67j-n9 0-q9-li 0-q9-lg 0-67k-n9 0-q9-n9 0-q4-n9 1-q9-n6 0-69i-n9
   0-pd-li 0-pd-lg 0-pd-lc 1-pd-n9 4-4o-n6 0-67o-n9 0-qf-n9 0-q6-n9 1-qf-n6 0-69y-n9 0-ph-lc
   1-pj-lc 1-pj-n9 0-69r-lc 0-69r-ld 0-69r-n6 0-qh-li 0-qh-lg 0-qy-lc 3-qh-n6 0-qy-n6 0-pl-li
   0-pl-lg 0-pl-lc 2-6bi-lc 0-6bi-ld 0-6bi-n6 0-qt-li 0-qt-lg 0-qz-lc 1-qp-lv 0-qp-lw 0-qt-n6
   0-qz-n6 0-px-li 0-px-lg 0-px-lc 1-pt-lw 0-4o-lc 4-67w-n9 0-qx-n9 0-r2-n9 1-qx-n6 0-6ba-n9
   0-pr-lc 1-q1-lc 1-q1-n9 bh-6mo-mw 0-6mq-mw i-6ms-mw u-6og-mw 0-6ok-mw 0-6oi-mw 1g-6pv-mw
   4-6q0-mw 2-6q3-mw n-6qr-mw 1-6qt-mw q-6rg-mw 2-6rn-mw 2-6rp-mw 1-6rs-mw m-1p-mw 1-6sh-mw
   a-6rx-mw 0-1o-mw 0-1q-mw 0-6sk-mw 0-6sl-mw 2-6sy-mw 0-6sz-mw 2-6t2-mw 0-6t3-mw 6-6t6-mw
   0-6t7-mw 2-6te-mw 0-6tf-mw 2-6ti-mw 0-6tj-mw y-6ua-mw 0-6ug-mw 0-6uh-mw 0-6uj-mw 1c-6t8-mw
   0-6t9-mw 0-6tt-mw 0-6tu-mw 6-6uq-mw 0-6ur-mw 0-6us-mw 0-6ut-mw 2n2-9jf-9ll 1-9jh-9ll
   1-9jj-9ll 1-9jl-9ll 1-9jn-9ll 1-9jp-9ll 1-9jr-9ll 1-9jt-9ll 1-9jv-9ll 1-9jx-9ll 1-9jz-9ll
   1-9k1-9ll 2-9k4-9ll 1-9k6-9ll 1-9k8-9ll 6-9kf-9ll 0-9kf-9lm 1-9ki-9ll 0-9ki-9lm 1-9kl-9ll
   0-9kl-9lm 1-9ko-9ll 0-9ko-9lm 1-9kr-9ll 0-9kr-9lm m-9ja-9ll 9-9lp-9ll d-9m3-9ll 1-9m5-9ll
   1-9m7-9ll 1-9m9-9ll 1-9mb-9ll 1-9md-9ll 1-9mf-9ll 1-9mh-9ll 1-9mj-9ll 1-9ml-9ll 1-9mn-9ll
   1-9mp-9ll 2-9ms-9ll 1-9mu-9ll 1-9mw-9ll 6-9n3-9ll 0-9n3-9lm 1-9n6-9ll 0-9n6-9lm 1-9n9-9ll
   0-9n9-9lm 1-9nc-9ll 0-9nc-9lm 1-9nf-9ll 0-9nf-9lm m-9ly-9ll 2-9nz-9ll 0-9o0-9ll 0-9o1-9ll
   0-9o2-9ll 3-9od-9ll 1616-1fpu-lj q-1fq2-lj 245-1huh-1hve 1-1huj-1hve e-1hut-1hve 3m-1hyp-1hyf
   0-1hyq-1hyf ez-1idj-1ida 0-1idj-1idz 1i-1if6-1ih5 1-1if8-1igr 8-1iff-1igy 2-1ifk-1ih5
   1f-1igy-1igy 1-1igy-1igo 0-1igy-1ih5 6q-1int-1inu 0-1int-1ink 1-1int-1inx 6z-1iuw-1iun
   0-1iux-1iun os-1jjp-1jjk e7c-1xr2-1xr2 0-1xr2-1xrd 0-1xr2-1xr3 0-1xrd-1xr3 0-1xr2-1xr4
   0-1xr5-1xr3 0-1xr6-1xr3 0-1xr5-1xr4 2f3-206f-206f 0-206b-206f 0-206h-206f"

/-- The numbers of a word, set apart by hyphens. -/
def wordNumbers (n : Nat) : List Char → List Nat
  | [] => [n]
  | c :: rest =>
    if c = '-' then n :: wordNumbers 0 rest else wordNumbers (36 * n + Ranges.digitValue c) rest

/-- The words between blanks. -/
def blankWords (word : List Char) : List Char → List (List Char)
  | [] => if word.isEmpty then [] else [word.reverse]
  | c :: rest =>
    if c = ' ' || c = '\n' then
      if word.isEmpty then blankWords [] rest else word.reverse :: blankWords [] rest
    else blankWords (c :: word) rest

def readPairs (next : Nat) : List (List Char) → List (Nat × Nat × Nat)
  | [] => []
  | word :: words =>
    match wordNumbers 0 word with
    | [gap, first, second] => (next + gap, first, second) :: readPairs (next + gap + 1) words
    | _ => readPairs next words

/-- Characters with the two that they are composed of. -/
def pairs : List (Nat × Nat × Nat) := readPairs 0 (blankWords [] pairText.toList)

/-- A syllable of Hangul. -/
def isSyllable (code : Nat) : Bool := 0xAC00 ≤ code && code ≤ 0xD7A3

/-- A syllable as its letters: the first, the vowel and the last if there is one. -/
def syllableParts (code : Nat) : List Nat :=
  let n := code - 0xAC00
  let last := n % 28
  [0x1100 + n / 588, 0x1161 + n % 588 / 28] ++ if last = 0 then [] else [0x11A7 + last]

/-- A first letter and a vowel, or a syllable without a last letter and one, as a syllable. -/
def syllable? (a b : Nat) : Option Nat :=
  if 0x1100 ≤ a && a ≤ 0x1112 && 0x1161 ≤ b && b ≤ 0x1175 then
    some (0xAC00 + (a - 0x1100) * 588 + (b - 0x1161) * 28)
  else if isSyllable a && (a - 0xAC00) % 28 = 0 && 0x11A8 ≤ b && b ≤ 0x11C2 then
    some (a + (b - 0x11A7))
  else none

/-- A character as what it is composed of; what a pair begins with may be composed too. -/
def decomposed : Nat → Nat → List Nat
  | 0, code => [code]
  | fuel + 1, code =>
    if code < 0xC0 then [code]
    else if isSyllable code then syllableParts code
    else match pairs.find? (·.1 = code) with
      | some (_, first, second) => decomposed fuel first ++ [second]
      | none => [code]

/-- Inserts a mark before the marks of greater classes at the end of a text, which is in reverse
order. -/
def insertMark (code cls : Nat) : List Nat → List Nat
  | [] => [code]
  | before :: rest =>
    if cls ≠ 0 && cls < markClass before then before :: insertMark code cls rest
    else code :: before :: rest

def ordered (codes : List Nat) : List Nat :=
  (codes.foldl (fun text code => insertMark code (markClass code) text) []).reverse

def composed? (a b : Nat) : Option Nat :=
  (syllable? a b).or ((pairs.find? fun (_, first, second) => first = a && second = b).map (·.1))

/-- Composes marks with the starter before them. A mark is blocked by one of the same or a greater
class between the two; `held` are the marks between, the latest first. -/
def compose (starter : Nat) (held : List Nat) : List Nat → List Nat
  | [] => starter :: held.reverse
  | code :: rest =>
    let cls := markClass code
    let free := match held with
      | [] => true
      | before :: _ => cls ≠ 0 && markClass before < cls
    match if free then composed? starter code else none with
    | some whole => compose whole held rest
    | none =>
      if cls = 0 then starter :: held.reverse ++ compose code [] rest
      else compose starter (code :: held) rest

/-- The canonical composition of a text. Marks at its start compose with nothing. -/
def canonical (codes : List Nat) : List Nat :=
  if codes.all (· < 0xC0) then codes
  else
    let text := ordered (codes.flatMap (decomposed 4))
    let marks := text.takeWhile (markClass · ≠ 0)
    match text.drop marks.length with
    | [] => marks
    | starter :: rest => marks ++ compose starter [] rest

end Telemetry.Text
